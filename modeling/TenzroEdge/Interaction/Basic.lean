import Mathlib.Tactic
import Mathlib.Data.Stream.Init

/-!
# Interaction programs

A program that talks to the outside world is the tree of the commands it may
issue: each node carries one command and a continuation for every reply the
world may give. A `Handler` is one behaviour of the world, a function from the
command and the state of the world to the reply and the next state, and `run`
executes a program against it. Whatever the world is free to choose becomes a
parameter of the handler, so that a statement about every behaviour of the
world quantifies over that parameter.

`ExceptT ε (Prog I)` is the type of programs that may stop early with an error.
`orFail` turns the failed reply to a command into such an early exit.
-/

namespace Interaction

/-- The commands a program may issue, and the type of the reply to each of them. -/
structure Interface where
  Cmd : Type
  Reply : Cmd → Type

/-- A program over an interface: it returns, or issues a command and goes on with the reply. -/
inductive Prog (I : Interface) (α : Type) : Type where
  | ret (value : α)
  | call (cmd : I.Cmd) (next : I.Reply cmd → Prog I α)

/-- One behaviour of the world: the reply to a command, and the state that the command leaves. -/
abbrev Handler (I : Interface) (σ : Type) := (cmd : I.Cmd) → σ → I.Reply cmd × σ

namespace Prog

variable {I : Interface} {σ α β γ δ ε : Type}

def bind (program : Prog I α) (next : α → Prog I β) : Prog I β :=
  match program with
  | .ret value => next value
  | .call cmd rest => .call cmd fun reply => (rest reply).bind next

instance : Monad (Prog I) where
  pure := .ret
  bind := bind

@[simp]
theorem pure_eq_ret (value : α) : (pure value : Prog I α) = .ret value := rfl

@[simp]
theorem ret_bind (value : α) (next : α → Prog I β) : (Prog.ret value >>= next) = next value := rfl

@[simp]
theorem call_bind (cmd : I.Cmd) (rest : I.Reply cmd → Prog I α) (next : α → Prog I β) :
    (Prog.call cmd rest >>= next) = .call cmd fun reply => rest reply >>= next := rfl

theorem bind_assoc (program : Prog I α) (first : α → Prog I β) (second : β → Prog I γ) :
    (program >>= first >>= second) = program >>= fun value => first value >>= second := by
  induction program with
  | ret value => rfl
  | call cmd rest ih =>
      simp only [call_bind]
      congr 1
      funext reply
      exact ih reply

theorem bind_ret (program : Prog I α) : (program >>= Prog.ret) = program := by
  induction program with
  | ret value => rfl
  | call cmd rest ih =>
      simp only [call_bind]
      congr 1
      funext reply
      exact ih reply

instance : LawfulMonad (Prog I) :=
  LawfulMonad.mk' (Prog I) bind_ret (fun _ _ => rfl) bind_assoc

def request (cmd : I.Cmd) : Prog I (I.Reply cmd) := .call cmd .ret

/-- Run a program whose result may be an error, and leave the caller with the translated error. -/
def orFail (translate : δ → ε) (program : Prog I (Except δ α)) : ExceptT ε (Prog I) α :=
  ExceptT.mk (program >>= fun
    | .ok value => .ret (.ok value)
    | .error error => .ret (.error (translate error)))

theorem run_orFail_bind {translate : δ → ε} {program : Prog I (Except δ α)}
    {next : α → ExceptT ε (Prog I) β} :
    (orFail translate program >>= next).run = program >>= fun
      | .ok value => (next value).run
      | .error error => .ret (.error (translate error)) := by
  rw [ExceptT.run_bind]
  change program >>= _ >>= _ = _
  rw [bind_assoc]
  congr 1
  funext result
  cases result with
  | ok value => rfl
  | error error => rfl

def run (serve : Handler I σ) : Prog I α → σ → α × σ
  | .ret value, state => (value, state)
  | .call cmd next, state => run serve (next (serve cmd state).1) (serve cmd state).2

section Run

variable (serve : Handler I σ)

@[simp]
theorem run_ret (value : α) (state : σ) : run serve (.ret value) state = (value, state) := rfl

@[simp]
theorem run_call (cmd : I.Cmd) (next : I.Reply cmd → Prog I α) (state : σ) :
    run serve (.call cmd next) state =
      run serve (next (serve cmd state).1) (serve cmd state).2 := rfl

@[simp]
theorem run_request (cmd : I.Cmd) (state : σ) :
    run serve (request cmd) state = serve cmd state := rfl

@[simp]
theorem run_bind (program : Prog I α) (next : α → Prog I β) (state : σ) :
    run serve (program >>= next) state =
      run serve (next (run serve program state).1) (run serve program state).2 := by
  induction program generalizing state with
  | ret value => rfl
  | call cmd rest ih => exact ih _ _

/-- What every command preserves, a run preserves. -/
theorem run_invariant {invariant : σ → Prop}
    (preserved : ∀ cmd state, invariant state → invariant (serve cmd state).2)
    (program : Prog I α) {state : σ} (holds : invariant state) :
    invariant (run serve program state).2 := by
  induction program generalizing state with
  | ret value => exact holds
  | call cmd next ih => exact ih _ (preserved cmd state holds)

/-- The early exit of a failing program skips what follows it. -/
theorem run_bind_of_error {program : ExceptT ε (Prog I) α} {next : α → ExceptT ε (Prog I) β}
    {state after : σ} {error : ε}
    (failed : run serve program.run state = (.error error, after)) :
    run serve (program >>= next).run state = (.error error, after) := by
  simp only [ExceptT.run_bind, run_bind, failed]
  rfl

theorem run_bind_of_ok {program : ExceptT ε (Prog I) α} {next : α → ExceptT ε (Prog I) β}
    {state after : σ} {value : α}
    (returned : run serve program.run state = (.ok value, after)) :
    run serve (program >>= next).run state = run serve (next value).run after := by
  simp only [ExceptT.run_bind, run_bind, returned]

/-- A program that cannot fail hands its result on. -/
theorem run_lift_bind {program : Prog I α} {next : α → ExceptT ε (Prog I) β} (state : σ) :
    run serve (ExceptT.lift program >>= next).run state =
      run serve (next (run serve program state).1).run (run serve program state).2 := by
  simp only [ExceptT.run_bind, ExceptT.run_lift, run_bind, map_eq_pure_bind]
  rfl

theorem run_orFail_of_ok {translate : δ → ε} {program : Prog I (Except δ α)} {state after : σ}
    {value : α} (returned : run serve program state = (.ok value, after)) :
    run serve (orFail translate program).run state = (.ok value, after) := by
  change run serve (program >>= _) state = _
  rw [run_bind, returned]
  rfl

theorem run_orFail_of_error {translate : δ → ε} {program : Prog I (Except δ α)}
    {state after : σ} {error : δ} (failed : run serve program state = (.error error, after)) :
    run serve (orFail translate program).run state = (.error (translate error), after) := by
  change run serve (program >>= _) state = _
  rw [run_bind, failed]
  rfl

theorem run_orFail_bind_of_ok {translate : δ → ε} {program : Prog I (Except δ α)}
    {next : α → ExceptT ε (Prog I) β} {state after : σ} {value : α}
    (returned : run serve program state = (.ok value, after)) :
    run serve (orFail translate program >>= next).run state = run serve (next value).run after :=
  run_bind_of_ok serve (run_orFail_of_ok serve returned)

theorem run_orFail_bind_of_error {translate : δ → ε} {program : Prog I (Except δ α)}
    {next : α → ExceptT ε (Prog I) β} {state after : σ} {error : δ}
    (failed : run serve program state = (.error error, after)) :
    run serve (orFail translate program >>= next).run state = (.error (translate error), after) :=
  run_bind_of_error serve (run_orFail_of_error serve failed)

/-- A program that returns a function of a result succeeds with the values of the function. -/
theorem run_orFail_bind_pure_eq_ok_iff {translate : δ → ε} {program : Prog I (Except δ α)}
    {f : α → β} {state : σ} {result : β} :
    (run serve (orFail translate program >>= fun value => pure (f value)).run state).1 =
        .ok result ↔
      ∃ value, (run serve program state).1 = .ok value ∧ result = f value := by
  cases returned : run serve program state with
  | mk reply after =>
      cases reply with
      | error error =>
          rw [run_orFail_bind_of_error serve returned]
          simp
      | ok value =>
          rw [run_orFail_bind_of_ok serve returned]
          simp [eq_comm]

end Run

/-- The commands that a run issues, the first one first. -/
def issued (serve : Handler I σ) : Prog I α → σ → List I.Cmd
  | .ret _, _ => []
  | .call cmd next, state => cmd :: issued serve (next (serve cmd state).1) (serve cmd state).2

section Issued

variable (serve : Handler I σ)

@[simp]
theorem issued_ret (value : α) (state : σ) : issued serve (.ret value) state = [] := rfl

@[simp]
theorem issued_call (cmd : I.Cmd) (next : I.Reply cmd → Prog I α) (state : σ) :
    issued serve (.call cmd next) state =
      cmd :: issued serve (next (serve cmd state).1) (serve cmd state).2 := rfl

end Issued

/-- Every command the program may issue, whatever the replies, is allowed. -/
def Issues (allowed : I.Cmd → Prop) : Prog I α → Prop
  | .ret _ => True
  | .call cmd next => allowed cmd ∧ ∀ reply, (next reply).Issues allowed

theorem Issues.request {allowed : I.Cmd → Prop} {cmd : I.Cmd} (isAllowed : allowed cmd) :
    (request cmd).Issues allowed :=
  ⟨isAllowed, fun _ => trivial⟩

theorem Issues.bind {allowed : I.Cmd → Prop} {program : Prog I α} {next : α → Prog I β}
    (first : program.Issues allowed) (rest : ∀ value, (next value).Issues allowed) :
    (program >>= next).Issues allowed := by
  induction program with
  | ret value => exact rest value
  | call cmd more ih =>
      refine ⟨first.1, ?_⟩
      intro reply
      exact ih reply (first.2 reply)

theorem Issues.bind_run {allowed : I.Cmd → Prop} {program : ExceptT ε (Prog I) α}
    {next : α → ExceptT ε (Prog I) β} (first : program.run.Issues allowed)
    (rest : ∀ value, (next value).run.Issues allowed) :
    (program >>= next).run.Issues allowed := by
  rw [ExceptT.run_bind]
  apply first.bind
  intro result
  cases result with
  | error error => exact trivial
  | ok value => exact rest value

theorem Issues.orFail {allowed : I.Cmd → Prop} {translate : δ → ε}
    {program : Prog I (Except δ α)} (first : program.Issues allowed) :
    (orFail translate program).run.Issues allowed := by
  apply first.bind
  intro result
  cases result with
  | error error => exact trivial
  | ok value => exact trivial

theorem Issues.lift {allowed : I.Cmd → Prop} {program : Prog I α}
    (first : program.Issues allowed) :
    (ExceptT.lift program : ExceptT ε (Prog I) α).run.Issues allowed :=
  first.bind fun _ => trivial

/-- What the allowed commands preserve, a run of a program that issues only those preserves. -/
theorem Issues.run_invariant {serve : Handler I σ} {allowed : I.Cmd → Prop}
    {invariant : σ → Prop}
    (preserved : ∀ cmd state, allowed cmd → invariant state → invariant (serve cmd state).2)
    {program : Prog I α} (issues : program.Issues allowed) {state : σ}
    (holds : invariant state) : invariant (run serve program state).2 := by
  induction program generalizing state with
  | ret value => exact holds
  | call cmd next ih => exact ih _ (issues.2 _) (preserved cmd state issues.1 holds)

theorem Issues.of_mem {serve : Handler I σ} {allowed : I.Cmd → Prop} {program : Prog I α}
    (issues : program.Issues allowed) {state : σ} {cmd : I.Cmd}
    (mem : cmd ∈ issued serve program state) : allowed cmd := by
  induction program generalizing state with
  | ret value => cases mem
  | call first next ih =>
      rcases List.mem_cons.mp mem with rfl | mem
      · exact issues.1
      · exact ih _ (issues.2 _) mem

end Prog

/-- The world makes its choices one command at a time, from a stream fixed in advance. -/
def scripted {I : Interface} {σ ε : Type} (serve : ε → Handler I σ) :
    Handler I (σ × Stream' ε) := fun cmd world =>
  ((serve world.2.head cmd world.1).1, (serve world.2.head cmd world.1).2, world.2.tail)

end Interaction
