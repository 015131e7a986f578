import TenzroEdge.Interaction.Basic

/-!
# Sequences of programs

A history runs one program after the other against the same world, each for a key of
its own, and keeps for each what it found, what it returned and what it asked for.
-/

namespace Interaction

/-- A program of a sequence, with the state that it found and the state that it left. -/
structure Episode (I : Interface) (κ σ α : Type) where
  key : κ
  before : σ
  result : α
  issued : List I.Cmd
  after : σ

section

variable {I : Interface} {κ σ α : Type} (serve : Handler I σ) (program : κ → Prog I α)

def episode (key : κ) (state : σ) : Episode I κ σ α where
  key := key
  before := state
  result := (Prog.run serve (program key) state).1
  issued := Prog.issued serve (program key) state
  after := (Prog.run serve (program key) state).2

def history : List κ → σ → List (Episode I κ σ α)
  | [], _ => []
  | key :: rest, state => episode serve program key state ::
      history rest (episode serve program key state).after

def afterHistory : List κ → σ → σ
  | [], state => state
  | key :: rest, state => afterHistory rest (episode serve program key state).after

end

section

variable {I : Interface} {κ σ α : Type} {serve : Handler I σ} {program : κ → Prog I α}
  {keys : List κ} {state : σ} {found : Episode I κ σ α}

theorem eq_episode_of_mem (mem : found ∈ history serve program keys state) :
    found = episode serve program found.key found.before := by
  induction keys generalizing state with
  | nil => cases mem
  | cons key rest ih =>
      rcases List.mem_cons.mp mem with rfl | mem
      · rfl
      · exact ih mem

/-- What every program of the sequence preserves, a history preserves. -/
theorem afterHistory_invariant {invariant : σ → Prop}
    (preserved : ∀ key state, invariant state → invariant (Prog.run serve (program key) state).2)
    (holds : invariant state) : invariant (afterHistory serve program keys state) := by
  induction keys generalizing state with
  | nil => exact holds
  | cons key rest ih => exact ih (preserved key state holds)

/-- What an episode leaves and every program preserves, holds at the end. -/
theorem afterHistory_of_mem {invariant : σ → Prop}
    (preserved : ∀ key state, invariant state → invariant (Prog.run serve (program key) state).2)
    (mem : found ∈ history serve program keys state) (holds : invariant found.after) :
    invariant (afterHistory serve program keys state) := by
  induction keys generalizing state with
  | nil => cases mem
  | cons key rest ih =>
      rcases List.mem_cons.mp mem with rfl | mem
      · have atEnd : invariant (afterHistory serve program rest
            (episode serve program key state).after) := afterHistory_invariant preserved holds
        exact atEnd
      · exact ih mem

end

end Interaction
