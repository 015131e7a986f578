import TenzroEdge.Interaction.Loop
import TenzroEdge.Interaction.Transcript

/-!
# Programs under a monitor

A monitor watches the commands of a program and the replies to them: its state tells which commands
are allowed next. A program follows a monitor from a state if all its commands are allowed, whatever
the replies, and if it returns in a state that fits its value. Its transcripts are then accepted by
the monitor, so that what holds of accepted transcripts is proved without the program.
-/

namespace Interaction

variable {I : Interface} {α β δ ε μ : Type}

structure Monitor (I : Interface) (μ : Type) where
  allows : μ → I.Cmd → Prop
  after : μ → (cmd : I.Cmd) → I.Reply cmd → μ

/-- The commands of the transcript are allowed one after the other, which leads to the last
state. -/
inductive Monitor.Accepts (monitor : Monitor I μ) : μ → List (Exchange I) → μ → Prop where
  | nil (state : μ) : Accepts monitor state [] state
  | cons {state final : μ} {cmd : I.Cmd} {rest : List (Exchange I)} (reply : I.Reply cmd)
      (allowed : monitor.allows state cmd)
      (more : Accepts monitor (monitor.after state cmd reply) rest final) :
      Accepts monitor state (⟨cmd, reply⟩ :: rest) final

namespace Prog

variable {monitor : Monitor I μ} {state : μ}

def Follows (monitor : Monitor I μ) (finish : α → μ → Prop) : Prog I α → μ → Prop
  | .ret value, state => finish value state
  | .call cmd next, state => monitor.allows state cmd ∧
      ∀ reply, (next reply).Follows monitor finish (monitor.after state cmd reply)

theorem Follows.of_leaves {finish : α → μ → Prop} {program left : Prog I α}
    {transcript : List (Exchange I)} (follows : program.Follows monitor finish state)
    (leaves : program.Leaves transcript left) :
    ∃ final, monitor.Accepts state transcript final ∧ left.Follows monitor finish final := by
  induction leaves generalizing state with
  | start program => exact ⟨state, .nil state, follows⟩
  | exchange reply rest ih =>
      rcases ih (follows.2 reply) with ⟨final, accepts, later⟩
      exact ⟨final, .cons reply follows.1 accepts, later⟩

theorem Follows.bind {middle : α → μ → Prop} {finish : β → μ → Prop} {program : Prog I α}
    {next : α → Prog I β} (first : program.Follows monitor middle state)
    (rest : ∀ value later, middle value later → (next value).Follows monitor finish later) :
    (program >>= next).Follows monitor finish state := by
  induction program generalizing state with
  | ret value => exact rest value state first
  | call cmd more ih => exact ⟨first.1, fun reply => ih reply (first.2 reply)⟩

/-- How a program that may fail finishes. -/
def Finishes (good : α → μ → Prop) (bad : ε → μ → Prop) : Except ε α → μ → Prop
  | .ok value, state => good value state
  | .error error, state => bad error state

variable {good : β → μ → Prop} {bad : ε → μ → Prop}

theorem Follows.bind_run {middle : α → μ → Prop} {program : ExceptT ε (Prog I) α}
    {next : α → ExceptT ε (Prog I) β}
    (first : program.run.Follows monitor (Finishes middle bad) state)
    (rest : ∀ value later, middle value later →
      (next value).run.Follows monitor (Finishes good bad) later) :
    (program >>= next).run.Follows monitor (Finishes good bad) state := by
  rw [ExceptT.run_bind]
  apply first.bind
  intro result later finished
  cases result with
  | error error => exact finished
  | ok value => exact rest value later finished

theorem Follows.orFail {translate : δ → ε} {program : Prog I (Except δ β)}
    (first : program.Follows monitor (Finishes good fun error => bad (translate error)) state) :
    (orFail translate program).run.Follows monitor (Finishes good bad) state := by
  apply first.bind
  intro result later finished
  cases result with
  | error error => exact finished
  | ok value => exact finished

theorem Follows.lift {program : Prog I β} (follows : program.Follows monitor good state) :
    (ExceptT.lift program : ExceptT ε (Prog I) β).run.Follows monitor (Finishes good bad) state :=
  follows.bind fun _ _ finished => finished

/-- The loop keeps what holds between two rounds. -/
theorem Follows.loop {body : ExceptT ε (Prog I) (Option α)} {good : Option α → μ → Prop}
    (round : ∀ state, good none state → body.run.Follows monitor (Finishes good bad) state)
    (rounds : ℕ) (holds : good none state) :
    (loop body rounds).run.Follows monitor (Finishes good bad) state := by
  induction rounds generalizing state with
  | zero => exact holds
  | succ rounds ih =>
      apply (round state holds).bind_run
      intro result later finished
      cases result with
      | none => exact ih finished
      | some value => exact finished

end Prog

end Interaction
