import TenzroEdge.Broker.Round

/-!
# Offers against a script

A script fixes what an offer is answered: whether its task is posted, what the clock reads
each time, and the reply to each poll of its task, which may depend on the input that the
task was posted with. The first round with a verdict ends the offer: one whose check finds the
deadline passed, whose poll fails, or whose reply has a terminal status.
-/

namespace TenzroEdge.Broker

open Codec Interaction Interaction.Prog

structure Script where
  posted : Except SdkError PostedTask
  /-- The readings of the clock; the first of them starts the wait. -/
  clock : ℕ → ℕ
  reply : String → ℕ → Except SdkError TaskInfo

/-- The input of the posted task, and how often the clock was read and the task polled. -/
structure Marks where
  input : String
  readings : ℕ
  polls : ℕ

def serveScript (script : Script) : Handler io Marks
  | .postTask _ _ _ _ input _, marks => (script.posted, { marks with input := input })
  | .getTask taskId, marks => (replyFor script.posted taskId (script.reply marks.input marks.polls),
      { marks with polls := marks.polls + 1 })
  | .now, marks => (script.clock marks.readings, { marks with readings := marks.readings + 1 })
  | .sleep _, marks => ((), marks)

def unmarked : Marks := ⟨"", 0, 0⟩

/-- The marks when the given number of rounds has gone by without a verdict. -/
def waiting (input : String) (round : ℕ) : Marks := ⟨input, round + 1, round⟩

/-! ## Verdicts -/

/-- The check of a round finds the deadline passed. -/
def Late (script : Script) (deadline : Duration) (round : ℕ) : Prop :=
  deadline < script.clock (round + 1) - script.clock 0

instance (script : Script) (deadline : Duration) (round : ℕ) :
    Decidable (Late script deadline round) := inferInstanceAs (Decidable (_ < _))

section

variable (debug : SdkError → String) (blake3 : Bytes → Octets 32) (decodeError : String → String)

/-- What a round ends the offer with, if it does. -/
def verdict (script : Script) (input taskId : String) (deadline : Duration) (round : ℕ) :
    Option (Except WorkBrokerError WorkOutcome) :=
  if Late script deadline round then some (.ok (deadlineExceeded taskId deadline))
  else judge debug blake3 decodeError taskId (script.reply input round)

end

section

variable {debug : SdkError → String} {blake3 : Bytes → Octets 32} {decodeError : String → String}
  {script : Script} {input taskId : String} {interval deadline : Duration} {round : ℕ}
  {posted : PostedTask}

theorem run_getTask_script (accepted : script.posted = .ok posted)
    (marks : Marks) : run (serveScript script) (getTask posted.taskId) marks =
      (script.reply marks.input marks.polls, { marks with polls := marks.polls + 1 }) := by
  refine Prod.ext ?_ rfl
  change replyFor script.posted posted.taskId _ = _
  rw [accepted, replyFor_ok]

theorem run_now_waiting : run (serveScript script) now (waiting input round) =
    (script.clock (round + 1), ⟨input, round + 2, round⟩) := rfl

/-- A round has no verdict exactly if it is in time and its reply leaves the task under way. -/
theorem verdict_eq_none_iff :
    verdict debug blake3 decodeError script input taskId deadline round = none ↔
      ¬ Late script deadline round ∧ Pending (script.reply input round) := by
  by_cases late : Late script deadline round
  · simp [verdict, late]
  · simp [verdict, late, judge_eq_none_iff]

def pollsAfter (script : Script) (deadline : Duration) (round : ℕ) : ℕ :=
  if Late script deadline round then round else round + 1

theorem run_poll_of_verdict {result : Except WorkBrokerError WorkOutcome}
    (accepted : script.posted = .ok posted)
    (judged : verdict debug blake3 decodeError script input posted.taskId deadline round =
      some result) :
    run (serveScript script) (poll debug blake3 decodeError interval deadline posted.taskId
      (script.clock 0)).run (waiting input round) =
        (result.map some, ⟨input, round + 2, pollsAfter script deadline round⟩) := by
  by_cases late : Late script deadline round
  · have passed : .ok (deadlineExceeded posted.taskId deadline) = result := by
      simpa [verdict, late] using judged
    rw [← passed, pollsAfter, if_pos late]
    exact run_poll_passed run_now_waiting late
  · have settled : judge debug blake3 decodeError posted.taskId (script.reply input round) =
        some result := by simpa [verdict, late] using judged
    rw [pollsAfter, if_neg late]
    exact run_poll_judged run_now_waiting late (run_getTask_script accepted _) settled

theorem run_poll_of_noVerdict (accepted : script.posted = .ok posted)
    (undecided : verdict debug blake3 decodeError script input posted.taskId deadline round =
      none) :
    run (serveScript script) (poll debug blake3 decodeError interval deadline posted.taskId
      (script.clock 0)).run (waiting input round) =
        (.ok none, waiting input (round + 1)) := by
  rcases verdict_eq_none_iff.mp undecided with ⟨intime, pending⟩
  exact run_poll_pending run_now_waiting intime (run_getTask_script accepted _) pending

/-- A round is the first with a verdict. -/
structure Ends (debug : SdkError → String) (blake3 : Bytes → Octets 32)
    (decodeError : String → String) (script : Script) (input taskId : String) (deadline : Duration)
    (round : ℕ) (result : Except WorkBrokerError WorkOutcome) : Prop where
  judged : verdict debug blake3 decodeError script input taskId deadline round = some result
  undecided : ∀ earlier < round,
    verdict debug blake3 decodeError script input taskId deadline earlier = none

/-- The task is polled in the rounds that are in time, and in no other. -/
theorem Ends.intime {ending : ℕ} {result : Except WorkBrokerError WorkOutcome}
    (ends : Ends debug blake3 decodeError script input taskId deadline ending result)
    (polled : round < pollsAfter script deadline ending) : ¬ Late script deadline round := by
  have passed : round < ending → ¬ Late script deadline round := fun earlier =>
    (verdict_eq_none_iff.mp (ends.undecided round earlier)).1
  unfold pollsAfter at polled
  split at polled
  next => exact passed polled
  next intime =>
    rcases Nat.lt_succ_iff_lt_or_eq.mp polled with earlier | rfl
    · exact passed earlier
    · exact intime

theorem run_loop_of_noVerdict {rounds : ℕ} (accepted : script.posted = .ok posted)
    (undecided : ∀ round < rounds,
      verdict debug blake3 decodeError script input posted.taskId deadline round = none) :
    run (serveScript script) (loop (poll debug blake3 decodeError interval deadline posted.taskId
      (script.clock 0)) rounds).run (waiting input 0) = (.ok none, waiting input rounds) := by
  apply run_loop_worlds
  intro round bound
  exact run_poll_of_noVerdict accepted (undecided round bound)

theorem run_loop_of_ends {ending rounds : ℕ} {result : Except WorkBrokerError WorkOutcome}
    (accepted : script.posted = .ok posted)
    (ends : Ends debug blake3 decodeError script input posted.taskId deadline ending result)
    (within : ending < rounds) :
    run (serveScript script) (loop (poll debug blake3 decodeError interval deadline posted.taskId
      (script.clock 0)) rounds).run (waiting input 0) =
        (result.map some, ⟨input, ending + 2, pollsAfter script deadline ending⟩) := by
  have last : result.map some ≠ .ok none := by cases result <;> simp [Except.map]
  apply run_loop_until within _ (run_poll_of_verdict accepted ends.judged) last
  intro round bound
  exact run_poll_of_noVerdict accepted (ends.undecided round bound)

theorem ends_or_noVerdict (debug : SdkError → String) (blake3 : Bytes → Octets 32)
    (decodeError : String → String) (script : Script) (input taskId : String)
    (deadline : Duration) (rounds : ℕ) :
    (∃ ending < rounds, ∃ result,
      Ends debug blake3 decodeError script input taskId deadline ending result) ∨
    ∀ round < rounds,
      verdict debug blake3 decodeError script input taskId deadline round = none := by
  rcases first_or_forall (fun round =>
    verdict debug blake3 decodeError script input taskId deadline round = none) rounds with
    ⟨ending, bound, ended, undecided⟩ | undecided
  · rcases Option.ne_none_iff_exists'.mp ended with ⟨result, judged⟩
    exact .inl ⟨ending, bound, result, judged, undecided⟩
  · exact .inr undecided

end

/-! ## Offers -/

section

variable {debug : SdkError → String} {blake3 : Bytes → Octets 32} {decodeError : String → String}
  {script : Script} {broker : TenzroBroker} {work : WorkOffer} {rounds : ℕ}

/-- The text that the work of an offer is posted as. -/
def inputOf (work : WorkOffer) : String := Base64.standard.encode work.request

def offered (debug : SdkError → String) (blake3 : Bytes → Octets 32)
    (decodeError : String → String) (script : Script) (rounds : ℕ) (broker : TenzroBroker)
    (work : WorkOffer) : Except WorkBrokerError (Option WorkOutcome) × Marks :=
  run (serveScript script) (offer debug blake3 decodeError rounds broker work).run unmarked

theorem offered_of_error {error : SdkError} (rejected : script.posted = .error error) :
    offered debug blake3 decodeError script rounds broker work =
      (.error (mapSdk debug error), ⟨inputOf work, 0, 0⟩) := by
  have posting : run (serveScript script) (postOf broker work) unmarked =
      (.error error, ⟨inputOf work, 0, 0⟩) := Prod.ext rejected rfl
  exact run_offer_of_error posting rounds

theorem offered_of_ok {posted : PostedTask} (accepted : script.posted = .ok posted) :
    offered debug blake3 decodeError script rounds broker work =
      run (serveScript script) (loop (poll debug blake3 decodeError broker.pollInterval
        (deadlineOf broker work) posted.taskId (script.clock 0)) rounds).run
          (waiting (inputOf work) 0) := by
  have posting : run (serveScript script) (postOf broker work) unmarked =
      (.ok posted, ⟨inputOf work, 0, 0⟩) := Prod.ext accepted rfl
  exact run_offer_of_ok posting rfl rounds

theorem offered_of_ends {posted : PostedTask} {ending : ℕ}
    {result : Except WorkBrokerError WorkOutcome} (accepted : script.posted = .ok posted)
    (ends : Ends debug blake3 decodeError script (inputOf work) posted.taskId
      (deadlineOf broker work) ending result) (within : ending < rounds) :
    offered debug blake3 decodeError script rounds broker work =
      (result.map some, ⟨inputOf work, ending + 2,
        pollsAfter script (deadlineOf broker work) ending⟩) := by
  rw [offered_of_ok accepted, run_loop_of_ends accepted ends within]

theorem offered_of_noVerdict {posted : PostedTask} (accepted : script.posted = .ok posted)
    (undecided : ∀ round < rounds, verdict debug blake3 decodeError script (inputOf work)
      posted.taskId (deadlineOf broker work) round = none) :
    offered debug blake3 decodeError script rounds broker work =
      (.ok none, waiting (inputOf work) rounds) := by
  rw [offered_of_ok accepted, run_loop_of_noVerdict accepted undecided]

end

end TenzroEdge.Broker
