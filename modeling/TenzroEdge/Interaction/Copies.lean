import TenzroEdge.Interaction.History
import TenzroEdge.Interaction.Loop

/-!
# Copies of requests

A sender makes one request after the other through an unreliable network, and makes each again
as long as its result asks for it. What the remote side executes is copies of these requests in
the order in which they were first made: no request overtakes another, and one whose result no
fault can bring about has been executed.
-/

namespace Interaction

variable {I : Interface} {κ σ α Fault : Type}

/-- Make one request, and again as long as its result asks for it. -/
def persist (again : α → Bool) (cmd : κ → I.Cmd) (finish : (key : κ) → I.Reply (cmd key) → α)
    (attempts : κ → ℕ) (key : κ) : Prog I (Option α) :=
  retry again (.call (cmd key) fun reply => .ret (finish key reply)) (attempts key)

/-- What is known of a request that was executed the given number of times. -/
structure Handed (fail : (cmd : I.Cmd) → Fault → I.Reply cmd) (serve : Handler I σ)
    (cmd : κ → I.Cmd) (finish : (key : κ) → I.Reply (cmd key) → α) (attempts : κ → ℕ) (key : κ)
    (result : Option α) (copies : ℕ) : Prop where
  atMost : copies ≤ attempts key
  answered : ∀ value, result = some value →
    (∃ fault, finish key (fail (cmd key) fault) = value) ∨
      0 < copies ∧ ∃ state, finish key (serve (cmd key) state).1 = value

section

variable {fail : (cmd : I.Cmd) → Fault → I.Reply cmd} {serve : Handler I σ} {again : α → Bool}
  {cmd : κ → I.Cmd} {finish : (key : κ) → I.Reply (cmd key) → α} {attempts : κ → ℕ}

/-- A delivery that lets the request through has it executed once. -/
theorem executed_overNetwork (delivery : Delivery Fault) (cmd : I.Cmd) (world : Recorded I σ) :
    (overNetwork fail serve delivery cmd world).2.executed =
      world.executed ++ List.replicate delivery.executes.toNat cmd := by
  cases delivery with
  | lost fault => simp [overNetwork]
  | delivered => rfl
  | replyLost fault => rfl

theorem reply_overNetwork (delivery : Delivery Fault) (cmd : I.Cmd) (world : Recorded I σ) :
    (∃ fault, (overNetwork fail serve delivery cmd world).1 = fail cmd fault) ∨
      delivery.executes = true ∧
        (overNetwork fail serve delivery cmd world).1 = (serve cmd world.state).1 := by
  cases delivery with
  | lost fault => exact .inl ⟨fault, rfl⟩
  | delivered => exact .inr ⟨rfl, rfl⟩
  | replyLost fault => exact .inl ⟨fault, rfl⟩

theorem Handed.more {key : κ} {result : Option α} {copies bound : ℕ}
    (handed : Handed fail serve cmd finish (fun _ => bound) key result copies) (first : Bool) :
    Handed fail serve cmd finish (fun _ => bound + 1) key result (first.toNat + copies) := by
  constructor
  case atMost =>
    have atMost : copies ≤ bound := handed.atMost
    have one : first.toNat ≤ 1 := Bool.toNat_le first
    omega
  case answered =>
    intro value returned
    rcases handed.answered value returned with fault | ⟨some, answered⟩
    · exact .inl fault
    · exact .inr ⟨Nat.add_pos_right _ some, answered⟩

theorem run_retry_copies (again : α → Bool) (key : κ) (bound : ℕ) (before : Recorded I σ)
    (script : Stream' (Delivery Fault)) :
    ∃ copies, Handed fail serve cmd finish (fun _ => bound) key
        (Prog.run (scripted (overNetwork fail serve))
          (retry again (.call (cmd key) fun reply => .ret (finish key reply)) bound)
          (before, script)).1 copies ∧
      (Prog.run (scripted (overNetwork fail serve))
          (retry again (.call (cmd key) fun reply => .ret (finish key reply)) bound)
          (before, script)).2.1.executed =
        before.executed ++ List.replicate copies (cmd key) := by
  induction bound generalizing before script with
  | zero =>
      refine ⟨0, ⟨le_refl 0, ?_⟩, by simp [retry, loop]⟩
      intro value finished
      cases finished
  | succ bound ih =>
      have attempted : Prog.run (scripted (overNetwork fail serve))
          (.call (cmd key) fun reply => .ret (finish key reply)) (before, script) =
            (finish key (overNetwork fail serve script.head (cmd key) before).1,
              (overNetwork fail serve script.head (cmd key) before).2, script.tail) := rfl
      have executed : (overNetwork fail serve script.head (cmd key) before).2.executed =
          before.executed ++ List.replicate script.head.executes.toNat (cmd key) :=
        executed_overNetwork script.head (cmd key) before
      cases decision : again (finish key
          (overNetwork fail serve script.head (cmd key) before).1) with
      | true =>
          rw [run_retry_of_again attempted decision]
          rcases ih (overNetwork fail serve script.head (cmd key) before).2 script.tail with
            ⟨copies, handed, later⟩
          refine ⟨_, handed.more script.head.executes, ?_⟩
          rw [later, executed, List.append_assoc, List.replicate_append_replicate]
      | false =>
          rw [run_retry_of_settled attempted decision]
          refine ⟨script.head.executes.toNat, ?_, executed⟩
          constructor
          case atMost => exact le_trans (Bool.toNat_le _) (Nat.le_add_left 1 bound)
          case answered =>
            intro value returned
            cases returned
            rcases reply_overNetwork script.head (cmd key) before with
              ⟨fault, replied⟩ | ⟨through, replied⟩
            · exact .inl ⟨fault, by rw [replied]⟩
            · exact .inr ⟨by rw [through]; exact Nat.one_pos, before.state, by rw [replied]⟩

/-- However the network treats the requests, what is executed are copies of them, in order. -/
theorem history_copies (keys : List κ) (before : Recorded I σ)
    (script : Stream' (Delivery Fault)) :
    ∃ copies : List ℕ,
      List.Forall₂ (fun episode => Handed fail serve cmd finish attempts episode.key
          episode.result)
        (history (scripted (overNetwork fail serve)) (persist again cmd finish attempts) keys
          (before, script)) copies ∧
      (afterHistory (scripted (overNetwork fail serve)) (persist again cmd finish attempts) keys
          (before, script)).1.executed =
        before.executed ++
          (List.zipWith (fun key count => List.replicate count (cmd key)) keys copies).flatten := by
  induction keys generalizing before script with
  | nil => exact ⟨[], .nil, by simp [afterHistory]⟩
  | cons key rest ih =>
      rcases run_retry_copies again key (attempts key) before script with
        ⟨count, handed, executed⟩
      let world := episode (scripted (overNetwork fail serve))
        (persist again cmd finish attempts) key (before, script)
      rcases ih world.after.1 world.after.2 with ⟨copies, others, later⟩
      refine ⟨count :: copies, .cons ⟨handed.atMost, handed.answered⟩ others, ?_⟩
      rw [List.zipWith_cons_cons, List.flatten_cons, ← List.append_assoc, ← executed]
      exact later

end

end Interaction
