import TenzroEdge.Interaction.Basic
import Mathlib.Logic.Function.Basic
import Mathlib.Logic.Relation

/-!
# Interleaved programs

A pool is a family of programs over one shared state. A step lets any member
issue its pending command, with the world choosing the event that decides the
reply; the members not scheduled stay where they are, so a member which stops
for ever (a crash, a dropped future) needs no step of its own. Reachability is
over every schedule and every choice of events.
-/

namespace Interaction

variable {I : Interface} {ι σ α ε : Type}

/-- Several programs over one shared state. -/
structure Pool (I : Interface) (ι σ α : Type) where
  progs : ι → Prog I α
  state : σ

namespace Pool

variable [DecidableEq ι] {serve : ε → ι → Handler I σ}

/-- Member `i` issues its pending command. -/
inductive Step (serve : ε → ι → Handler I σ) (i : ι) : Pool I ι σ α → Pool I ι σ α → Prop where
  | issue {pool : Pool I ι σ α} {cmd : I.Cmd} {next : I.Reply cmd → Prog I α} (event : ε)
      (pending : pool.progs i = .call cmd next) :
      Step serve i pool
        ⟨Function.update pool.progs i (next (serve event i cmd pool.state).1),
          (serve event i cmd pool.state).2⟩

/-- A step executes the command that is pending. -/
theorem Step.of_call {pool after : Pool I ι σ α} {i : ι} {cmd : I.Cmd}
    {next : I.Reply cmd → Prog I α} (step : Step serve i pool after)
    (pending : pool.progs i = .call cmd next) :
    ∃ event, after = ⟨Function.update pool.progs i (next (serve event i cmd pool.state).1),
      (serve event i cmd pool.state).2⟩ := by
  cases step with
  | issue event issued =>
      rw [pending] at issued
      cases issued
      exact ⟨event, rfl⟩

theorem Step.not_of_ret {pool after : Pool I ι σ α} {i : ι} {value : α}
    (returned : pool.progs i = .ret value) : ¬ Step serve i pool after := by
  intro step
  cases step with
  | issue event issued =>
      rw [returned] at issued
      cases issued

/-- The pools some schedule and some choice of events lead to. -/
def Reachable (serve : ε → ι → Handler I σ) (start : Pool I ι σ α) : Pool I ι σ α → Prop :=
  Relation.ReflTransGen (fun before after => ∃ i, Step serve i before after) start

theorem Reachable.refl (start : Pool I ι σ α) : Reachable serve start start :=
  Relation.ReflTransGen.refl

theorem Reachable.step {start pool after : Pool I ι σ α} {i : ι}
    (reached : Reachable serve start pool) (step : Step serve i pool after) :
    Reachable serve start after :=
  Relation.ReflTransGen.tail reached ⟨i, step⟩

/-- What holds at the start and survives the step of any member holds of every reachable pool. -/
theorem Reachable.invariant {start pool : Pool I ι σ α} {invariant : Pool I ι σ α → Prop}
    (initially : invariant start)
    (preserved : ∀ {i before after}, invariant before → Step serve i before after →
      invariant after)
    (reached : Reachable serve start pool) : invariant pool := by
  induction reached with
  | refl => exact initially
  | tail _ step ih =>
      rcases step with ⟨i, step⟩
      exact preserved ih step

theorem Reachable.returned {pool after : Pool I ι σ α} {i : ι} {value : α}
    (reached : Reachable serve pool after) (returned : pool.progs i = .ret value) :
    after.progs i = .ret value := by
  induction reached with
  | refl => exact returned
  | tail _ step ih =>
      rcases step with ⟨j, step⟩
      by_cases same : j = i
      · subst same
        exact absurd step (Step.not_of_ret ih)
      · cases step with
        | issue event pending => exact (Function.update_of_ne (Ne.symm same) _ _).trans ih

def turn (serve : ε → ι → Handler I σ) (event : ε) (i : ι) (pool : Pool I ι σ α) : Pool I ι σ α :=
  match pool.progs i with
  | .ret _ => pool
  | .call cmd next => ⟨Function.update pool.progs i (next (serve event i cmd pool.state).1),
      (serve event i cmd pool.state).2⟩

/-- Let the members take turns as scheduled. -/
def schedule (serve : ε → ι → Handler I σ) (turns : List (ε × ι)) (pool : Pool I ι σ α) :
    Pool I ι σ α :=
  turns.foldl (fun pool next => pool.turn serve next.1 next.2) pool

theorem reachable_turn (event : ε) (i : ι) (pool : Pool I ι σ α) :
    Reachable serve pool (pool.turn serve event i) := by
  unfold turn
  split
  next => exact .refl pool
  next pending => exact (Reachable.refl pool).step (.issue event pending)

theorem reachable_schedule (turns : List (ε × ι)) (pool : Pool I ι σ α) :
    Reachable serve pool (pool.schedule serve turns) := by
  induction turns generalizing pool with
  | nil => exact .refl pool
  | cons next rest ih => exact (reachable_turn next.1 next.2 pool).trans (ih _)

end Pool

end Interaction
