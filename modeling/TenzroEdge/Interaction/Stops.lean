import TenzroEdge.Interaction.Loop
import TenzroEdge.Interaction.Transcript

/-!
# Programs that stop at a fault

A reply may report a fault of the world. A program stops at faults if, at the first reply that
reports one, it turns to its report of that fault, and if it is fine with everything it returns
otherwise. The rules follow the way programs are put together; for a program that may fail the
report is an early exit, and what is fine is any result but the errors that count as soft.
-/

namespace Interaction

variable {I : Interface} {α β δ ε φ : Type}

namespace Prog

section

variable {fault : (cmd : I.Cmd) → I.Reply cmd → Option φ} {report : φ → Prog I α}
  {fine : α → Prop}

def StopsAt (fault : (cmd : I.Cmd) → I.Reply cmd → Option φ) (report : φ → Prog I α)
    (fine : α → Prop) : Prog I α → Prop
  | .ret value => fine value
  | .call cmd next => ∀ reply,
      (∀ found, fault cmd reply = some found → next reply = report found) ∧
        (fault cmd reply = none → (next reply).StopsAt fault report fine)

theorem StopsAt.mono {program : Prog I α} {fineToo : α → Prop}
    (stops : program.StopsAt fault report fine) (weaker : ∀ value, fine value → fineToo value) :
    program.StopsAt fault report fineToo := by
  induction program with
  | ret value => exact weaker value stops
  | call cmd next ih =>
      intro reply
      exact ⟨(stops reply).1, fun noFault => ih reply ((stops reply).2 noFault)⟩

theorem StopsAt.bind {program : Prog I α} {next : α → Prog I β} {reported : φ → Prog I β}
    {fineToo : β → Prop} (first : program.StopsAt fault report fine)
    (passed : ∀ found, (report found >>= next) = reported found)
    (rest : ∀ value, fine value → (next value).StopsAt fault reported fineToo) :
    (program >>= next).StopsAt fault reported fineToo := by
  induction program with
  | ret value => exact rest value first
  | call cmd more ih =>
      intro reply
      constructor
      · intro found isFault
        rw [← passed found, ← (first reply).1 found isFault]
        rfl
      · intro noFault
        exact ih reply ((first reply).2 noFault)

/-- Behind a program none of whose commands is ever answered with a fault. -/
theorem StopsAt.bind_of_issues {program : Prog I β} {next : β → Prog I α}
    (issues : program.Issues fun cmd => ∀ reply, fault cmd reply = none)
    (rest : ∀ value, (next value).StopsAt fault report fine) :
    (program >>= next).StopsAt fault report fine := by
  induction program with
  | ret value => exact rest value
  | call cmd more ih =>
      intro reply
      constructor
      · intro found isFault
        rw [issues.1 reply] at isFault
        cases isFault
      · intro noFault
        exact ih reply (issues.2 reply)

/-- No reply so far was a fault, or the first one that was has turned the program to its report. -/
theorem StopsAt.of_leaves {program left : Prog I α} {transcript : List (Exchange I)}
    (stops : program.StopsAt fault report fine) (leaves : program.Leaves transcript left) :
    (∀ entry ∈ transcript, fault entry.1 entry.2 = none) ∧ left.StopsAt fault report fine ∨
      ∃ earlier entry rest found, transcript = earlier ++ entry :: rest ∧
        (∀ before ∈ earlier, fault before.1 before.2 = none) ∧
        fault entry.1 entry.2 = some found ∧ (report found).Leaves rest left := by
  induction leaves with
  | start program => exact .inl ⟨List.forall_mem_nil _, stops⟩
  | @exchange cmd next transcript left reply rest ih =>
      cases isFault : fault cmd reply with
      | some found =>
          right
          rw [(stops reply).1 found isFault] at rest
          exact ⟨[], ⟨cmd, reply⟩, transcript, found, rfl, List.forall_mem_nil _, isFault,
            rest⟩
      | none =>
          rcases ih ((stops reply).2 isFault) with
            ⟨none, left⟩ | ⟨earlier, entry, after, found, rfl, none, first, reported⟩
          · left
            refine ⟨?_, left⟩
            intro entry mem
            rcases List.mem_cons.mp mem with rfl | mem
            · exact isFault
            · exact none entry mem
          · right
            refine ⟨⟨cmd, reply⟩ :: earlier, entry, after, found, rfl, ?_, first, reported⟩
            intro before mem
            rcases List.mem_cons.mp mem with rfl | mem
            · exact isFault
            · exact none before mem

end

/-! ## Programs that may fail -/

section

variable {fault : (cmd : I.Cmd) → I.Reply cmd → Option φ} {report : φ → ε} {soft : ε → Prop}

/-- A fault ends the program with its report, and nothing else ends it with a soft error. -/
def FailsSoft (fault : (cmd : I.Cmd) → I.Reply cmd → Option φ) (report : φ → ε) (soft : ε → Prop)
    (program : ExceptT ε (Prog I) α) : Prop :=
  program.run.StopsAt fault (fun found => .ret (.error (report found)))
    fun result => ∀ error, result = .error error → ¬ soft error

theorem FailsSoft.pure (value : α) :
    FailsSoft fault report soft (Pure.pure value : ExceptT ε (Prog I) α) := by
  intro error failed
  cases failed

theorem FailsSoft.throw {error : ε} (hard : ¬ soft error) :
    FailsSoft fault report soft (MonadExcept.throw error : ExceptT ε (Prog I) α) := by
  intro thrown failed
  cases failed
  exact hard

/-- A result that was computed without a command. -/
theorem FailsSoft.result {result : Except ε α}
    (hard : ∀ error, result = .error error → ¬ soft error) :
    FailsSoft fault report soft (ExceptT.mk (.ret result) : ExceptT ε (Prog I) α) :=
  hard

theorem FailsSoft.bind {program : ExceptT ε (Prog I) α} {next : α → ExceptT ε (Prog I) β}
    (first : FailsSoft fault report soft program)
    (rest : ∀ value, FailsSoft fault report soft (next value)) :
    FailsSoft fault report soft (program >>= next) := by
  unfold FailsSoft
  rw [ExceptT.run_bind]
  apply StopsAt.bind first
  · intro found
    rfl
  · intro result hard
    cases result with
    | error error => exact fun same failed => hard same (by cases failed; rfl)
    | ok value => exact rest value

theorem FailsSoft.lift {program : Prog I α}
    (issues : program.Issues fun cmd => ∀ reply, fault cmd reply = none) :
    FailsSoft fault report soft (ExceptT.lift program : ExceptT ε (Prog I) α) := by
  apply StopsAt.bind_of_issues issues
  intro value error failed
  cases failed

theorem FailsSoft.orFail {translate : δ → ε} {program : Prog I (Except δ α)} {raw : φ → δ}
    {fine : Except δ α → Prop}
    (first : program.StopsAt fault (fun found => .ret (.error (raw found))) fine)
    (reported : ∀ found, translate (raw found) = report found)
    (hard : ∀ error : δ, fine (.error error) → ¬ soft (translate error)) :
    FailsSoft fault report soft (orFail translate program) := by
  apply StopsAt.bind first
  · intro found
    change Prog.ret (Except.error (translate (raw found)) : Except ε α) = _
    rw [reported found]
  · intro result isFine
    cases result with
    | error error =>
        intro thrown failed
        cases failed
        exact hard error isFine
    | ok value => exact fun _ failed => nomatch failed

theorem FailsSoft.orFail_of_issues {translate : δ → ε} {program : Prog I (Except δ α)}
    (issues : program.Issues fun cmd => ∀ reply, fault cmd reply = none)
    (hard : ∀ error, ¬ soft (translate error)) :
    FailsSoft fault report soft (Prog.orFail translate program) := by
  apply StopsAt.bind_of_issues issues
  intro result
  cases result with
  | error error =>
      intro thrown failed
      cases failed
      exact hard error
  | ok value => exact fun _ failed => nomatch failed

theorem FailsSoft.loop {body : ExceptT ε (Prog I) (Option α)}
    (round : FailsSoft fault report soft body) (rounds : ℕ) :
    FailsSoft fault report soft (loop body rounds) := by
  induction rounds with
  | zero => exact .pure none
  | succ rounds ih =>
      apply round.bind
      intro result
      cases result with
      | none => exact ih
      | some value => exact .pure (some value)

end

end Prog

end Interaction
