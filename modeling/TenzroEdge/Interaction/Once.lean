import TenzroEdge.Interaction.Pool

/-!
# Members that make one request

A program that returns after its first command takes effect in one step, so that in a pool of
such programs every member is either untouched or has returned. What a member is answered is
decided by the state at its step, and whatever the others do afterwards has to preserve it.
-/

namespace Interaction

variable {I : Interface} {ι σ α ε : Type}

/-- The program returns after its first command, if it issues one. -/
def Prog.Once : Prog I α → Prop
  | .ret _ => True
  | .call _ next => ∀ reply, ∃ value, next reply = .ret value

namespace Pool

variable [DecidableEq ι] {serve : ε → ι → Handler I σ} {start pool : Pool I ι σ α}

/-- What each member's answer establishes and the commands of all members preserve, holds of the
members that have returned. -/
theorem Reachable.once (invariant : σ → Prop) (good : ι → α → σ → Prop)
    (once : ∀ i, (start.progs i).Once) (initially : invariant start.state)
    (preserved : ∀ event i cmd next state, start.progs i = .call cmd next → invariant state →
      invariant (serve event i cmd state).2)
    (kept : ∀ event i j cmd next value state, start.progs i = .call cmd next →
      good j value state → good j value (serve event i cmd state).2)
    (answered : ∀ event i cmd next value state, start.progs i = .call cmd next →
      invariant state → next (serve event i cmd state).1 = .ret value →
        good i value (serve event i cmd state).2)
    (reached : Reachable serve start pool) :
    invariant pool.state ∧ ∀ i, pool.progs i = start.progs i ∨
      ∃ value, pool.progs i = .ret value ∧ good i value pool.state := by
  induction reached with
  | refl => exact ⟨initially, fun i => .inl rfl⟩
  | tail _ step ih =>
      rcases ih with ⟨holds, members⟩
      rcases step with ⟨i, step⟩
      cases step with
      | @issue cmd next event pending =>
          have program : start.progs i = .call cmd next := by
            rcases members i with untouched | ⟨value, returned, -⟩
            · exact untouched.symm.trans pending
            · rw [pending] at returned
              cases returned
          refine ⟨preserved event i cmd next _ program holds, ?_⟩
          intro j
          by_cases same : j = i
          · subst same
            right
            have returns := once j
            rw [program] at returns
            rcases returns (serve event j cmd _).1 with ⟨value, returned⟩
            refine ⟨value, ?_, answered event j cmd next value _ program holds returned⟩
            rw [← returned]
            exact Function.update_self _ _ _
          · rcases members j with untouched | ⟨value, returned, established⟩
            · left
              rw [← untouched]
              exact Function.update_of_ne same _ _
            · right
              refine ⟨value, ?_, kept event i j cmd next value _ program established⟩
              rw [← returned]
              exact Function.update_of_ne same _ _

end Pool

end Interaction
