import TenzroEdge.Interaction.Transcript

/-!
# Replaying a transcript

A handler answers a transcript if it gives the replies of the transcript to its commands, one
after the other. The program of the transcript then runs against that handler as it has run
where the transcript comes from, so that a member of a pool, which other members interrupt,
can be told about as if it had run alone.
-/

namespace Interaction.Prog

variable {I : Interface} {σ α : Type} {serve : Handler I σ}

/-- The handler gives the replies of the transcript, and is left in the second state. -/
inductive Answers (serve : Handler I σ) : σ → List (Exchange I) → σ → Prop where
  | nil (state : σ) : Answers serve state [] state
  | cons {state after : σ} {cmd : I.Cmd} {reply : I.Reply cmd} {rest : List (Exchange I)}
      (replied : (serve cmd state).1 = reply)
      (more : Answers serve (serve cmd state).2 rest after) :
      Answers serve state (⟨cmd, reply⟩ :: rest) after

/-- A program runs against a handler that answers its transcript as the rest of it does. -/
theorem run_of_leaves {program left : Prog I α} {transcript : List (Exchange I)}
    {before after : σ} (leaves : program.Leaves transcript left)
    (answers : Answers serve before transcript after) :
    run serve program before = run serve left after := by
  induction leaves generalizing before with
  | start program =>
      cases answers with
      | nil => rfl
  | exchange reply rest ih =>
      cases answers with
      | cons replied more =>
          rw [run_call, replied]
          exact ih more

theorem Leaves.ret_iff {value : α} {left : Prog I α} {transcript : List (Exchange I)} :
    (Prog.ret value).Leaves transcript left ↔ transcript = [] ∧ left = .ret value := by
  constructor
  · intro leaves
    cases leaves with
    | start => exact ⟨rfl, rfl⟩
  · rintro ⟨rfl, rfl⟩
    exact .start _

/-- What is left of a program whose result is translated is left of the program. -/
theorem Leaves.of_bind_ret {β : Type} {translate : α → β} {program : Prog I α} {left : Prog I β}
    {transcript : List (Exchange I)}
    (leaves : (program >>= fun value => .ret (translate value)).Leaves transcript left) :
    ∃ rest : Prog I α, program.Leaves transcript rest ∧
      left = rest >>= fun value => .ret (translate value) := by
  induction program generalizing transcript with
  | ret value =>
      rw [ret_bind] at leaves
      rcases ret_iff.mp leaves with ⟨rfl, rfl⟩
      exact ⟨.ret value, .start _, rfl⟩
  | call cmd next ih =>
      rw [call_bind] at leaves
      cases leaves with
      | start => exact ⟨.call cmd next, .start _, rfl⟩
      | exchange reply leaves =>
          rcases ih reply leaves with ⟨rest, earlier, same⟩
          exact ⟨rest, .exchange reply earlier, same⟩

/-- A program that issues allowed commands only has exchanged and will exchange no others. -/
theorem Issues.of_leaves {allowed : I.Cmd → Prop} {program left : Prog I α}
    {transcript : List (Exchange I)} (issues : program.Issues allowed)
    (leaves : program.Leaves transcript left) :
    (∀ entry ∈ transcript, allowed entry.1) ∧ left.Issues allowed := by
  induction leaves with
  | start program => exact ⟨by simp, issues⟩
  | exchange reply rest ih =>
      rcases ih (issues.2 reply) with ⟨earlier, later⟩
      refine ⟨?_, later⟩
      intro entry mem
      rcases List.mem_cons.mp mem with rfl | mem
      · exact issues.1
      · exact earlier entry mem

end Interaction.Prog
