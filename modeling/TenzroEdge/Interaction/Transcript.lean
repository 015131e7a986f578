import TenzroEdge.Interaction.Pool

/-!
# Transcripts

The transcript of a program is the list of the commands that it has issued with the
replies that it got; what is left of the program is determined by it. When the members
of a pool each keep a journal of their own, the journal is a transcript: a member goes
on as its own replies tell it, and the steps of the others do not touch its journal.
-/

namespace Interaction

abbrev Exchange (I : Interface) := (cmd : I.Cmd) × I.Reply cmd

variable {I : Interface} {ι σ α ε : Type}

/-- The program `left` is left of a program after the exchanges of its transcript. -/
inductive Prog.Leaves : Prog I α → List (Exchange I) → Prog I α → Prop where
  | start (program : Prog I α) : Leaves program [] program
  | exchange {cmd : I.Cmd} {next : I.Reply cmd → Prog I α} {transcript : List (Exchange I)}
      {left : Prog I α} (reply : I.Reply cmd) (rest : Leaves (next reply) transcript left) :
      Leaves (.call cmd next) (⟨cmd, reply⟩ :: transcript) left

theorem Prog.Leaves.step {program : Prog I α} {transcript : List (Exchange I)} {cmd : I.Cmd}
    {next : I.Reply cmd → Prog I α} (leaves : program.Leaves transcript (.call cmd next))
    (reply : I.Reply cmd) : program.Leaves (transcript ++ [⟨cmd, reply⟩]) (next reply) := by
  generalize pending : Prog.call cmd next = left at leaves
  induction leaves with
  | start program =>
      subst pending
      exact .exchange reply (.start _)
  | exchange earlier _ ih => exact .exchange earlier (ih pending)

/-- A shared state, with the transcript of each member. -/
structure Journaled (I : Interface) (ι σ : Type) where
  state : σ
  journal : ι → List (Exchange I)

section

variable [DecidableEq ι]

/-- Serve a command, and enter it into the journal of the member that issues it. -/
def journaling (serve : ε → ι → Handler I σ) (event : ε) (i : ι) :
    Handler I (Journaled I ι σ) := fun cmd world =>
  ((serve event i cmd world.state).1,
    { state := (serve event i cmd world.state).2
      journal := Function.update world.journal i
        (world.journal i ++ [⟨cmd, (serve event i cmd world.state).1⟩]) })

theorem mem_journal {serve : ε → ι → Handler I σ} {event : ε} {i j : ι} {cmd : I.Cmd}
    {world : Journaled I ι σ} {entry : Exchange I}
    (mem : entry ∈ (journaling serve event i cmd world).2.journal j) :
    entry ∈ world.journal j ∨
      j = i ∧ entry = ⟨cmd, (serve event i cmd world.state).1⟩ := by
  by_cases same : j = i
  · subst same
    simp only [journaling, Function.update_self, List.mem_append, List.mem_singleton] at mem
    rcases mem with old | new
    · exact .inl old
    · exact .inr ⟨rfl, new⟩
  · simp only [journaling, Function.update_of_ne same] at mem
    exact .inl mem

namespace Pool

variable {serve : ε → ι → Handler I σ} {start pool after : Pool I ι (Journaled I ι σ) α} {i j : ι}

theorem Reachable.leaves (blank : ∀ i, start.state.journal i = [])
    (reached : Reachable (journaling serve) start pool) (i : ι) :
    (start.progs i).Leaves (pool.state.journal i) (pool.progs i) := by
  induction reached with
  | refl =>
      rw [blank i]
      exact .start _
  | tail _ step ih =>
      rcases step with ⟨j, step⟩
      cases step with
      | issue event pending =>
          by_cases same : i = j
          · subst same
            rw [pending] at ih
            simp only [journaling, Function.update_self]
            exact ih.step _
          · simp only [journaling, Function.update_of_ne same]
            exact ih

/-- A step of one member leaves the others and their journals as they are. -/
theorem Step.others (step : Step (journaling serve) j pool after) (other : i ≠ j) :
    after.progs i = pool.progs i ∧ after.state.journal i = pool.state.journal i := by
  cases step with
  | issue event pending =>
      exact ⟨Function.update_of_ne other _ _, Function.update_of_ne other _ _⟩

/-- What every command preserves of the shared state and the journals holds of every reachable
pool. -/
theorem Reachable.world_invariant {invariant : Journaled I ι σ → Prop}
    (initially : invariant start.state)
    (preserved : ∀ event i cmd world, invariant world →
      invariant (journaling serve event i cmd world).2)
    (reached : Reachable (journaling serve) start pool) : invariant pool.state := by
  induction reached with
  | refl => exact initially
  | tail _ step ih =>
      rcases step with ⟨i, step⟩
      cases step with
      | issue event pending => exact preserved event i _ _ ih

end Pool

end

end Interaction
