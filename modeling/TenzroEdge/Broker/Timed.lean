import TenzroEdge.Broker.Round

/-!
# Offers in time

In a timed run every command takes some time before it takes effect and some time
after; a reply reports the marketplace at the instant between the two. The instants
at which the rounds of an offer check the clock and sample the status are then
determined by the delays alone (`check`, `sample` and `wake`).

The loop checks the clock, samples, and sleeps for a full interval, whatever time is
left. So an offer completes exactly when some round passes its check by the deadline
and samples the finished task. That is certain when the task finishes an interval
and the time spent besides sleeping before the deadline, and not otherwise.
-/

namespace TenzroEdge.Broker

open Codec Interaction Interaction.Prog

/-- The time that a command takes before and after its effect. -/
structure Delay where
  before : ℕ
  after : ℕ

/-- A task that finishes at some instant: before it the status is not terminal. -/
structure FinishingTask where
  taskId : String
  finished : ℕ
  underWay : ℕ → TaskInfo
  result : TaskInfo
  output : String
  response : Bytes
  underWay_status : ∀ time, statusStr (underWay time).status ∉ ["completed", "failed", "cancelled"]
  result_status : statusStr result.status = "completed"
  result_output : result.output = some output
  decode_output : Base64.standard.decode output = some response

namespace FinishingTask

def info (task : FinishingTask) (time : ℕ) : TaskInfo :=
  if time < task.finished then task.underWay time else task.result

/-- The outcome of an offer that learns of the result. -/
def completed (task : FinishingTask) (blake3 : Bytes → Octets 32) : WorkOutcome :=
  .completed task.response (executorOf blake3 task.result.assignedAgent)

variable {task : FinishingTask} {debug : SdkError → String} {blake3 : Bytes → Octets 32}
  {decodeError : String → String} {taskId : String} {time : ℕ}

theorem pending_info (early : time < task.finished) : Pending (.ok (task.info time)) := by
  rw [info, if_pos early]
  exact ⟨task.underWay time, rfl, task.underWay_status time⟩

theorem judge_info (late : task.finished ≤ time) :
    judge debug blake3 decodeError taskId (.ok (task.info time)) =
      some (.ok (task.completed blake3)) := by
  have decoded : Base64.standard.decode (task.result.output.getD "") = some task.response := by
    rw [task.result_output, Option.getD_some, task.decode_output]
  rw [info, if_neg (Nat.not_lt.mpr late), judge, settle_of_completed task.result_status decoded]
  rfl

end FinishingTask

/-- The clock, and the delays of the commands to come. -/
abbrev Clock := ℕ × Stream' Delay

/-- A marketplace with one task, and the clock that each command moves. -/
def serveTimed (task : FinishingTask) (delay : Delay) : Handler io ℕ
  | .postTask _ _ _ _ _ _, time => (.ok ⟨task.taskId⟩, time + delay.before + delay.after)
  | .getTask taskId, time => (replyFor (.ok ⟨task.taskId⟩) taskId
      (.ok (task.info (time + delay.before))), time + delay.before + delay.after)
  | .now, time => (time + delay.before, time + delay.before + delay.after)
  | .sleep duration, time => ((), time + delay.before + duration + delay.after)

def timed (task : FinishingTask) : Handler io Clock := scripted (serveTimed task)

section

variable (task : FinishingTask) (clock : Clock)

theorem run_now_timed : run (timed task) now clock =
    (clock.1 + clock.2.head.before,
      (clock.1 + clock.2.head.before + clock.2.head.after, clock.2.tail)) := rfl

theorem run_getTask_timed : run (timed task) (getTask task.taskId) clock =
    (.ok (task.info (clock.1 + clock.2.head.before)),
      (clock.1 + clock.2.head.before + clock.2.head.after, clock.2.tail)) :=
  Prod.ext (replyFor_ok ⟨task.taskId⟩ _) rfl

theorem run_postOf_timed (broker : TenzroBroker) (work : WorkOffer) :
    run (timed task) (postOf broker work) clock =
      (.ok ⟨task.taskId⟩, (clock.1 + clock.2.head.before + clock.2.head.after, clock.2.tail)) :=
  rfl

end

/-! ## The instants of a round -/

/-- A round that starts at the given clock compares this instant with the deadline. -/
def check (clock : Clock) : ℕ := clock.1 + clock.2.head.before

/-- A round that passes its check samples the status at this instant. -/
def sample (clock : Clock) : ℕ := check clock + clock.2.head.after + clock.2.tail.head.before

def wake (interval : Duration) (clock : Clock) : Clock :=
  (sample clock + clock.2.tail.head.after + clock.2.tail.tail.head.before + interval +
    clock.2.tail.tail.head.after, clock.2.tail.tail.tail)

def roundStart (interval : Duration) (clock : Clock) (round : ℕ) : Clock :=
  (wake interval)^[round] clock

theorem check_le_sample (clock : Clock) : check clock ≤ sample clock := by
  simp only [sample]
  omega

theorem sample_le_check_wake (interval : Duration) (clock : Clock) :
    sample clock + interval ≤ check (wake interval clock) := by
  simp only [check, wake]
  omega

theorem roundStart_succ (interval : Duration) (clock : Clock) (round : ℕ) :
    roundStart interval clock (round + 1) = wake interval (roundStart interval clock round) :=
  Function.iterate_succ_apply' _ _ _

theorem check_roundStart_mono (interval : Duration) (clock : Clock) :
    Monotone fun round => check (roundStart interval clock round) := by
  apply monotone_nat_of_le_succ
  intro round
  rw [roundStart_succ]
  calc check (roundStart interval clock round)
      ≤ sample (roundStart interval clock round) := check_le_sample _
    _ ≤ sample (roundStart interval clock round) + interval := Nat.le_add_right _ _
    _ ≤ check (wake interval (roundStart interval clock round)) := sample_le_check_wake _ _

/-! ## A round of the loop -/

section Poll

variable {debug : SdkError → String} {blake3 : Bytes → Octets 32} {decodeError : String → String}
  {task : FinishingTask} {interval deadline : Duration} {started : ℕ} {clock : Clock}

theorem run_poll_of_late (late : started + deadline < check clock) :
    run (timed task)
        (poll debug blake3 decodeError interval deadline task.taskId started).run clock =
      (.ok (some (deadlineExceeded task.taskId deadline)),
        (check clock + clock.2.head.after, clock.2.tail)) :=
  run_poll_passed (run_now_timed task clock) (Nat.lt_sub_iff_add_lt'.mpr late)

theorem not_passed (intime : check clock ≤ started + deadline) :
    ¬ deadline < check clock - started :=
  Nat.not_lt.mpr (Nat.sub_le_iff_le_add'.mpr intime)

theorem run_poll_of_underWay (intime : check clock ≤ started + deadline)
    (early : sample clock < task.finished) :
    run (timed task)
        (poll debug blake3 decodeError interval deadline task.taskId started).run clock =
      (.ok none, wake interval clock) :=
  run_poll_pending (run_now_timed task clock) (not_passed intime) (run_getTask_timed task _)
    (FinishingTask.pending_info early)

theorem run_poll_of_finished (intime : check clock ≤ started + deadline)
    (finished : task.finished ≤ sample clock) :
    run (timed task)
        (poll debug blake3 decodeError interval deadline task.taskId started).run clock =
      (.ok (some (task.completed blake3)),
        (sample clock + clock.2.tail.head.after, clock.2.tail.tail)) :=
  run_poll_judged (run_now_timed task clock) (not_passed intime) (run_getTask_timed task _)
    (FinishingTask.judge_info finished)

/-! ## The whole loop -/

/-- A round that is in time and samples the task before it is finished. -/
def AsksAgain (task : FinishingTask) (interval deadline : Duration) (started : ℕ) (clock : Clock)
    (round : ℕ) : Prop :=
  check (roundStart interval clock round) ≤ started + deadline ∧
    sample (roundStart interval clock round) < task.finished

/-- The first round that does not ask for another has either passed the deadline or sampled the
finished task. -/
theorem run_loop_timed (rounds : ℕ) :
    ((∀ round < rounds, AsksAgain task interval deadline started clock round) ∧
      (run (timed task) (loop (poll debug blake3 decodeError interval deadline task.taskId started)
        rounds).run clock).1 = .ok none) ∨
    ∃ ending < rounds, (∀ round < ending, AsksAgain task interval deadline started clock round) ∧
      (started + deadline < check (roundStart interval clock ending) ∧
        (run (timed task)
          (loop (poll debug blake3 decodeError interval deadline task.taskId started)
            rounds).run clock).1 = .ok (some (deadlineExceeded task.taskId deadline)) ∨
      (check (roundStart interval clock ending) ≤ started + deadline ∧
        task.finished ≤ sample (roundStart interval clock ending)) ∧
        (run (timed task)
          (loop (poll debug blake3 decodeError interval deadline task.taskId started)
            rounds).run clock).1 = .ok (some (task.completed blake3))) := by
  have goesOn : ∀ round, AsksAgain task interval deadline started clock round →
      run (timed task) (poll debug blake3 decodeError interval deadline task.taskId started).run
        (roundStart interval clock round) = (.ok none, roundStart interval clock (round + 1)) := by
    intro round asks
    rw [roundStart_succ]
    exact run_poll_of_underWay asks.1 asks.2
  rcases first_or_forall (AsksAgain task interval deadline started clock) rounds with
    ⟨ending, within, ended, earlier⟩ | all
  · right
    refine ⟨ending, within, earlier, ?_⟩
    have before : ∀ round < ending, run (timed task) (poll debug blake3 decodeError interval
        deadline task.taskId started).run (roundStart interval clock round) =
          (.ok none, roundStart interval clock (round + 1)) :=
      fun round bound => goesOn round (earlier round bound)
    by_cases intime : check (roundStart interval clock ending) ≤ started + deadline
    · right
      have finished : task.finished ≤ sample (roundStart interval clock ending) :=
        Nat.not_lt.mp fun early => ended ⟨intime, early⟩
      exact ⟨⟨intime, finished⟩, congrArg Prod.fst
        (run_loop_until within before (run_poll_of_finished intime finished) (by simp))⟩
    · left
      have late := Nat.not_le.mp intime
      exact ⟨late, congrArg Prod.fst
        (run_loop_until within before (run_poll_of_late late) (by simp))⟩
  · left
    exact ⟨all, congrArg Prod.fst
      (run_loop_worlds fun round bound => goesOn round (all round bound))⟩

/-- The offer completes exactly when some round in time samples the finished task. -/
theorem run_loop_completed_iff (rounds : ℕ) :
    (run (timed task) (loop (poll debug blake3 decodeError interval deadline task.taskId started)
        rounds).run clock).1 = .ok (some (task.completed blake3)) ↔
      ∃ round < rounds, check (roundStart interval clock round) ≤ started + deadline ∧
        task.finished ≤ sample (roundStart interval clock round) := by
  rcases run_loop_timed rounds with
    ⟨all, outcome⟩ | ⟨ending, within, earlier, ⟨late, outcome⟩ | ⟨sampled, outcome⟩⟩
  · rw [outcome]
    constructor
    · intro same
      cases same
    · rintro ⟨round, bound, -, finished⟩
      exact absurd finished (Nat.not_le.mpr (all round bound).2)
  · rw [outcome]
    constructor
    · intro same
      cases same
    · rintro ⟨round, -, intime, finished⟩
      rcases Nat.lt_or_ge round ending with bound | bound
      · exact absurd finished (Nat.not_le.mpr (earlier round bound).2)
      · exact absurd ((check_roundStart_mono interval clock bound).trans intime)
          (Nat.not_le.mpr late)
  · constructor
    · intro _
      exact ⟨ending, within, sampled⟩
    · intro _
      exact outcome

/-- The offer gives up exactly when some round checks the clock behind the deadline, and none
before it has sampled the finished task. -/
theorem run_loop_exceeded_iff (rounds : ℕ) :
    (run (timed task) (loop (poll debug blake3 decodeError interval deadline task.taskId started)
        rounds).run clock).1 = .ok (some (deadlineExceeded task.taskId deadline)) ↔
      ∃ round < rounds, started + deadline < check (roundStart interval clock round) ∧
        ∀ earlier < round, sample (roundStart interval clock earlier) < task.finished := by
  rcases run_loop_timed rounds with
    ⟨all, outcome⟩ | ⟨ending, within, earlier, ⟨late, outcome⟩ | ⟨sampled, outcome⟩⟩
  · rw [outcome]
    constructor
    · intro same
      cases same
    · rintro ⟨round, bound, late, -⟩
      exact absurd (all round bound).1 (Nat.not_le.mpr late)
  · constructor
    · intro _
      exact ⟨ending, within, late, fun round bound => (earlier round bound).2⟩
    · intro _
      exact outcome
  · rw [outcome]
    constructor
    · intro same
      cases same
    · rintro ⟨round, -, late, unfinished⟩
      rcases Nat.lt_or_ge ending round with bound | bound
      · exact absurd sampled.2 (Nat.not_le.mpr (unfinished ending bound))
      · exact absurd ((check_roundStart_mono interval clock bound).trans sampled.1)
          (Nat.not_le.mpr late)

end Poll

/-! ## Offers -/

/-- The clock at which the wait of an offer begins: the instant `started` is read. -/
def waitStart (clock : Clock) : ℕ :=
  clock.1 + clock.2.head.before + clock.2.head.after + clock.2.tail.head.before

def firstRound (clock : Clock) : Clock :=
  (waitStart clock + clock.2.tail.head.after, clock.2.tail.tail)

/-- Besides sleeping, at most `latency` passes before the first check, and between the sample of
a round and the check of the next. -/
structure LatencyAtMost (latency : ℕ) (interval : Duration) (clock : Clock) : Prop where
  first : check (firstRound clock) ≤ waitStart clock + latency
  next : ∀ round, check (roundStart interval (firstRound clock) (round + 1)) ≤
    sample (roundStart interval (firstRound clock) round) + interval + latency

/-- Time goes on: the rounds leave every instant behind. -/
def Diverges (interval : Duration) (clock : Clock) : Prop :=
  ∀ time, ∃ round, time ≤ sample (roundStart interval (firstRound clock) round)

section Offer

variable {debug : SdkError → String} {blake3 : Bytes → Octets 32} {decodeError : String → String}
  {task : FinishingTask} {broker : TenzroBroker} {work : WorkOffer} {clock : Clock}

theorem run_offer_timed (rounds : ℕ) :
    run (timed task) (offer debug blake3 decodeError rounds broker work).run clock =
      run (timed task) (loop (poll debug blake3 decodeError broker.pollInterval
        (deadlineOf broker work) task.taskId (waitStart clock)) rounds).run (firstRound clock) :=
  run_offer_of_ok (run_postOf_timed task clock broker work) (run_now_timed task _) rounds

/-- A task that finishes an interval and a latency before the deadline is sampled in time. -/
theorem exists_round_in_time {interval deadline latency finished : ℕ}
    (bounded : LatencyAtMost latency interval clock) (diverges : Diverges interval clock)
    (margin : max finished (waitStart clock) + interval + latency ≤ waitStart clock + deadline) :
    ∃ round, check (roundStart interval (firstRound clock) round) ≤ waitStart clock + deadline ∧
      finished ≤ sample (roundStart interval (firstRound clock) round) := by
  classical
  have found := Nat.find_spec (diverges finished)
  have earliest := fun round => Nat.find_min (diverges finished) (m := round)
  -- the first round that samples the finished task checked the clock soon after the one before
  generalize Nat.find (diverges finished) = round at found earliest
  refine ⟨round, ?_, found⟩
  cases round with
  | zero =>
      have first := bounded.first
      change check (firstRound clock) ≤ _
      omega
  | succ round =>
      have next := bounded.next round
      have unfinished := Nat.not_le.mp (earliest round (Nat.lt_succ_self round))
      omega

/-- When an offer completes, when it gives up, and when it is certain to complete. -/
theorem offer_timed (debug : SdkError → String) (blake3 : Bytes → Octets 32)
    (decodeError : String → String) (task : FinishingTask) (broker : TenzroBroker)
    (work : WorkOffer) (clock : Clock) :
    (∀ rounds, (run (timed task) (offer debug blake3 decodeError rounds broker work).run clock).1 =
        .ok (some (task.completed blake3)) ↔
      ∃ round < rounds,
        check (roundStart broker.pollInterval (firstRound clock) round) ≤
          waitStart clock + deadlineOf broker work ∧
        task.finished ≤ sample (roundStart broker.pollInterval (firstRound clock) round)) ∧
    (∀ rounds, (run (timed task) (offer debug blake3 decodeError rounds broker work).run clock).1 =
        .ok (some (deadlineExceeded task.taskId (deadlineOf broker work))) ↔
      ∃ round < rounds,
        waitStart clock + deadlineOf broker work <
          check (roundStart broker.pollInterval (firstRound clock) round) ∧
        ∀ earlier < round,
          sample (roundStart broker.pollInterval (firstRound clock) earlier) < task.finished) ∧
    (∀ latency, LatencyAtMost latency broker.pollInterval clock →
      Diverges broker.pollInterval clock →
      max task.finished (waitStart clock) + broker.pollInterval + latency ≤
        waitStart clock + deadlineOf broker work →
      ∃ enough, ∀ rounds ≥ enough,
        (run (timed task) (offer debug blake3 decodeError rounds broker work).run clock).1 =
          .ok (some (task.completed blake3))) := by
  refine ⟨?_, ?_, ?_⟩
  · intro rounds
    rw [run_offer_timed]
    exact run_loop_completed_iff rounds
  · intro rounds
    rw [run_offer_timed]
    exact run_loop_exceeded_iff rounds
  · intro latency bounded diverges margin
    rcases exists_round_in_time bounded diverges margin with ⟨round, intime, finished⟩
    refine ⟨round + 1, ?_⟩
    intro rounds enough
    rw [run_offer_timed, run_loop_completed_iff]
    exact ⟨round, enough, intime, finished⟩

end Offer

/-! ## A task that finishes between the last poll and the deadline -/

def threeSecondTask : FinishingTask where
  taskId := "task-1"
  finished := Duration.fromSecs 3
  underWay _ := { status := .string "running", output := none, assignedAgent := none }
  result := { status := .string "completed", output := some "YQ==", assignedAgent := none }
  output := "YQ=="
  response := [97]
  underWay_status _ := by decide
  result_status := rfl
  result_output := rfl
  decode_output := rfl

def instantly : Clock := (0, Stream'.const ⟨0, 0⟩)

def defaultBroker : TenzroBroker where
  poster := Octets.replicate 32 0
  pollInterval := Duration.fromSecs 2
  defaultDeadline := Duration.fromSecs 300

def offerWithin (seconds : UInt32) : WorkOffer where
  workType := "inference"
  request := []
  maxPrice := none
  deadlineSecs := some seconds

theorem roundStart_instantly (interval round : ℕ) :
    roundStart interval (firstRound instantly) round = (round * interval, instantly.2) := by
  induction round with
  | zero => rw [Nat.zero_mul]; rfl
  | succ round ih =>
      rw [roundStart_succ, ih, Nat.succ_mul]
      rfl

theorem latencyAtMost_instantly (interval : ℕ) : LatencyAtMost 0 interval instantly := by
  refine ⟨le_refl _, ?_⟩
  intro round
  rw [roundStart_instantly, roundStart_instantly, Nat.succ_mul]
  exact le_refl _

theorem diverges_instantly {interval : ℕ} (positive : 0 < interval) :
    Diverges interval instantly := by
  intro time
  refine ⟨time, ?_⟩
  rw [roundStart_instantly]
  exact Nat.le_mul_of_pos_right time positive

theorem offer_timed_threeSecondTask :
    ∃ enough, ∀ rounds ≥ enough,
      (run (timed threeSecondTask) (offer (fun _ => "") (fun _ => Octets.replicate 32 0)
        (fun _ => "") rounds defaultBroker (offerWithin 10)).run instantly).1 =
          .ok (some (threeSecondTask.completed fun _ => Octets.replicate 32 0)) :=
  (offer_timed _ _ _ threeSecondTask defaultBroker (offerWithin 10) instantly).2.2 0
    (latencyAtMost_instantly _) (diverges_instantly (by decide +kernel)) (by decide +kernel)

/-- Polled every two seconds, the task is sampled neither at the deadline nor before. -/
theorem offer_discards_finished_work :
    ¬ ∀ (task : FinishingTask) (broker : TenzroBroker) (work : WorkOffer) (clock : Clock),
      task.finished ≤ waitStart clock + deadlineOf broker work → ∀ rounds,
        (run (timed task) (offer (fun _ => "") (fun _ => Octets.replicate 32 0) (fun _ => "")
          rounds broker work).run clock).1 ≠
            .ok (some (deadlineExceeded task.taskId (deadlineOf broker work))) := by
  intro never
  exact never threeSecondTask defaultBroker (offerWithin 3) instantly (by decide +kernel) 3 rfl

end TenzroEdge.Broker
