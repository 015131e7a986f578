import TenzroEdge.Broker.Script

/-!
# How long an offer waits

The loop of an offer has no bound of its own. What ends it, if no reply does, is the check of
the clock: rounds that each take some time leave the deadline behind after a bounded number of
polls.

The check is made before a poll, and the sleep after it is as long as ever. An offer can thus
fall asleep just before its deadline, and sleep through it.
-/

namespace TenzroEdge.Broker

open Codec Interaction Interaction.Prog

/-! ## The number of polls -/

section

variable {script : Script} {deadline : Duration} {least : ℕ}

theorem clock_progress (first : script.clock 0 ≤ script.clock 1)
    (next : ∀ round, script.clock (round + 1) + least ≤ script.clock (round + 2)) (round : ℕ) :
    script.clock 0 + round * least ≤ script.clock (round + 1) := by
  induction round with
  | zero => simpa using first
  | succ round ih =>
      calc script.clock 0 + (round + 1) * least
          = script.clock 0 + round * least + least := by rw [Nat.succ_mul, Nat.add_assoc]
        _ ≤ script.clock (round + 1) + least := Nat.add_le_add_right ih least
        _ ≤ script.clock (round + 2) := next round

theorem le_of_intime (positive : 0 < least) (first : script.clock 0 ≤ script.clock 1)
    (next : ∀ round, script.clock (round + 1) + least ≤ script.clock (round + 2)) {round : ℕ}
    (intime : ¬ Late script deadline round) : round ≤ deadline / least := by
  have progress := clock_progress first next round
  have elapsed : script.clock (round + 1) - script.clock 0 ≤ deadline := Nat.not_lt.mp intime
  exact (Nat.le_div_iff_mul_le positive).mpr (by omega)

theorem le_of_pending {rounds : ℕ} (positive : 0 < least)
    (first : script.clock 0 ≤ script.clock 1)
    (next : ∀ round, script.clock (round + 1) + least ≤ script.clock (round + 2))
    (intime : ∀ round < rounds, ¬ Late script deadline round) :
    rounds ≤ deadline / least + 1 := by
  cases rounds with
  | zero => exact Nat.zero_le _
  | succ rounds =>
      exact Nat.succ_le_succ
        (le_of_intime positive first next (intime rounds (Nat.lt_succ_self rounds)))

/-- Every offer returns, whatever the replies are. -/
theorem offer_terminates (debug : SdkError → String) (blake3 : Bytes → Octets 32)
    (decodeError : String → String) (script : Script) (broker : TenzroBroker) (work : WorkOffer)
    (least : ℕ) (positive : 0 < least) (first : script.clock 0 ≤ script.clock 1)
    (next : ∀ round, script.clock (round + 1) + least ≤ script.clock (round + 2)) :
    (∀ rounds > deadlineOf broker work / least + 1,
      (offered debug blake3 decodeError script rounds broker work).1 ≠ .ok none) ∧
    ∀ rounds, (offered debug blake3 decodeError script rounds broker work).2.polls ≤
      deadlineOf broker work / least + 1 := by
  cases accepted : script.posted with
  | error error => simp [offered_of_error accepted]
  | ok posted =>
      have cases := ends_or_noVerdict debug blake3 decodeError script (inputOf work) posted.taskId
        (deadlineOf broker work)
      constructor
      · intro rounds enough
        rcases cases rounds with ⟨ending, within, result, ends⟩ | undecided
        · rw [offered_of_ends accepted ends within]
          cases result <;> simp [Except.map]
        · have few : rounds ≤ deadlineOf broker work / least + 1 := by
            apply le_of_pending positive first next
            intro round bound
            exact (verdict_eq_none_iff.mp (undecided round bound)).1
          exact absurd enough (Nat.not_lt.mpr few)
      · intro rounds
        rcases cases rounds with ⟨ending, within, result, ends⟩ | undecided
        · rw [offered_of_ends accepted ends within]
          apply le_of_pending positive first next
          intro round bound
          exact ends.intime bound
        · rw [offered_of_noVerdict accepted undecided]
          apply le_of_pending positive first next
          intro round bound
          exact (verdict_eq_none_iff.mp (undecided round bound)).1

end

/-- The task never finishes, and polling it takes a second each time. -/
def neverDone : Script where
  posted := .ok ⟨"task-1"⟩
  clock reading := Duration.fromSecs reading
  reply _ _ := .ok ⟨.string "running", none, none⟩

def busyBroker : TenzroBroker where
  poster := Octets.replicate 32 0
  pollInterval := 0
  defaultDeadline := Duration.fromSecs 10

def noWork : WorkOffer where
  workType := "inference"
  request := []
  maxPrice := none
  deadlineSecs := none

theorem offer_terminates_neverDone :
    (∀ rounds > 11, (offered (fun _ => "") (fun _ => Octets.replicate 32 0) (fun _ => "") neverDone
      rounds busyBroker noWork).1 ≠ .ok none) ∧
    ∀ rounds, (offered (fun _ => "") (fun _ => Octets.replicate 32 0) (fun _ => "") neverDone
      rounds busyBroker noWork).2.polls ≤ 11 := by
  apply offer_terminates _ _ _ neverDone busyBroker noWork (Duration.fromSecs 1) (by decide)
    (by decide)
  intro round
  simp only [neverDone, Duration.fromSecs]
  omega

/-! ## The length of the wait -/

/-- What an offer is answered, and how long each answer takes. -/
structure Course where
  posted : Except SdkError PostedTask
  posting : Duration
  reply : ℕ → Except SdkError TaskInfo
  latency : ℕ → Duration

/-- An offer in time: the present instant, the polls made, and the sleeps, from when to when. -/
structure Wait where
  instant : ℕ
  polls : ℕ
  sleeps : List (ℕ × ℕ)

/-- Only requests and sleeps take time. -/
def serveCourse (course : Course) : Handler io Wait
  | .postTask _ _ _ _ _ _, wait =>
      (course.posted, { wait with instant := wait.instant + course.posting })
  | .getTask taskId, wait => (replyFor course.posted taskId (course.reply wait.polls),
      { wait with instant := wait.instant + course.latency wait.polls, polls := wait.polls + 1 })
  | .now, wait => (wait.instant, wait)
  | .sleep duration, wait => ((), { wait with
      instant := wait.instant + duration
      sleeps := wait.sleeps ++ [(wait.instant, wait.instant + duration)] })

/-- How an offer that is made at time zero has spent its time. -/
def waited (debug : SdkError → String) (blake3 : Bytes → Octets 32)
    (decodeError : String → String) (course : Course) (rounds : ℕ) (broker : TenzroBroker)
    (work : WorkOffer) : Wait :=
  (run (serveCourse course) (offer debug blake3 decodeError rounds broker work).run ⟨0, 0, []⟩).2

/-- The deadline caps the wait, which starts when the task is posted: the offer neither waits for
longer than the last reply in time takes, nor does it sleep through the deadline. -/
structure Capped (debug : SdkError → String) (blake3 : Bytes → Octets 32)
    (decodeError : String → String) (course : Course) (broker : TenzroBroker) (work : WorkOffer) :
    Prop where
  instant : ∀ latency, (∀ poll, course.latency poll ≤ latency) → ∀ rounds,
    (waited debug blake3 decodeError course rounds broker work).instant ≤
      course.posting + deadlineOf broker work + latency
  sleeps : ∀ rounds, ∀ asleep ∈ (waited debug blake3 decodeError course rounds broker work).sleeps,
    asleep.2 ≤ course.posting + deadlineOf broker work

/-- The time that the given number of polls takes, and as many sleeps. -/
def elapsed (course : Course) (interval : Duration) (polls : ℕ) : Duration :=
  ((List.range polls).map fun poll => course.latency poll + interval).sum

/-- The offer after the given number of polls, if all of them leave the task under way. -/
def asleepAfter (course : Course) (interval : Duration) (polls : ℕ) : Wait where
  instant := course.posting + elapsed course interval polls
  polls := polls
  sleeps := (List.range polls).map fun poll =>
    (course.posting + elapsed course interval poll + course.latency poll,
      course.posting + elapsed course interval (poll + 1))

section

variable {debug : SdkError → String} {blake3 : Bytes → Octets 32} {decodeError : String → String}
  {course : Course} {posted : PostedTask} {interval deadline : Duration} {round : ℕ}

theorem elapsed_succ (course : Course) (interval : Duration) (polls : ℕ) :
    elapsed course interval (polls + 1) =
      elapsed course interval polls + course.latency polls + interval := by
  simp [elapsed, List.range_succ, Nat.add_assoc]

theorem elapsed_mono (course : Course) (interval : Duration) :
    Monotone (elapsed course interval) := by
  apply monotone_nat_of_le_succ
  intro polls
  rw [elapsed_succ, Nat.add_assoc]
  exact Nat.le_add_right _ _

theorem run_now_course {wait : Wait} :
    run (serveCourse course) now wait = (wait.instant, wait) := rfl

theorem run_getTask_course (accepted : course.posted = .ok posted) {wait : Wait} :
    run (serveCourse course) (getTask posted.taskId) wait =
      (course.reply wait.polls, { wait with
        instant := wait.instant + course.latency wait.polls
        polls := wait.polls + 1 }) := by
  refine Prod.ext ?_ rfl
  change replyFor course.posted posted.taskId _ = _
  rw [accepted, replyFor_ok]

/-- The offer when the reply to the given poll has arrived. -/
def repliedTo (course : Course) (interval : Duration) (poll : ℕ) : Wait where
  instant := course.posting + elapsed course interval poll + course.latency poll
  polls := poll + 1
  sleeps := (asleepAfter course interval poll).sleeps

theorem run_sleep_repliedTo :
    (run (serveCourse course) (sleep interval) (repliedTo course interval round)).2 =
      asleepAfter course interval (round + 1) := by
  change Wait.mk _ _ _ = Wait.mk _ _ _
  simp [repliedTo, asleepAfter, elapsed_succ, List.range_succ, Nat.add_assoc]

theorem intime_of_elapsed (intime : elapsed course interval round ≤ deadline) :
    ¬ deadline < (asleepAfter course interval round).instant - course.posting := by
  rw [asleepAfter, Nat.add_sub_cancel_left]
  exact Nat.not_lt.mpr intime

theorem run_poll_course_pending (accepted : course.posted = .ok posted)
    (intime : elapsed course interval round ≤ deadline) (pending : Pending (course.reply round)) :
    run (serveCourse course) (poll debug blake3 decodeError interval deadline posted.taskId
      course.posting).run (asleepAfter course interval round) =
        (.ok none, asleepAfter course interval (round + 1)) := by
  rw [← run_sleep_repliedTo]
  exact run_poll_pending run_now_course (intime_of_elapsed intime) (run_getTask_course accepted)
    pending

theorem run_poll_course_judged {result : Except WorkBrokerError WorkOutcome}
    (accepted : course.posted = .ok posted) (intime : elapsed course interval round ≤ deadline)
    (judged : judge debug blake3 decodeError posted.taskId (course.reply round) = some result) :
    run (serveCourse course) (poll debug blake3 decodeError interval deadline posted.taskId
      course.posting).run (asleepAfter course interval round) =
        (result.map some, repliedTo course interval round) :=
  run_poll_judged run_now_course (intime_of_elapsed intime) (run_getTask_course accepted) judged

end

/-! ## Offers -/

/-- The replies that leave the task under way take no longer than the deadline, with the interval
added to each: the reply that ends the offer is to a poll that is made in time. -/
def AnsweredInTime (course : Course) (interval deadline : Duration) : Prop :=
  ∀ polls, (∀ poll < polls, Pending (course.reply poll)) → elapsed course interval polls ≤ deadline

section

variable {debug : SdkError → String} {blake3 : Bytes → Octets 32} {decodeError : String → String}
  {course : Course} {broker : TenzroBroker} {work : WorkOffer} {rounds : ℕ}

theorem run_postOf_course : run (serveCourse course) (postOf broker work) ⟨0, 0, []⟩ =
    (course.posted, asleepAfter course broker.pollInterval 0) := by
  change (course.posted, Wait.mk (0 + course.posting) 0 []) = _
  rw [Nat.zero_add]
  rfl

theorem waited_of_error {error : SdkError} (rejected : course.posted = .error error) :
    waited debug blake3 decodeError course rounds broker work =
      asleepAfter course broker.pollInterval 0 := by
  have posting : run (serveCourse course) (postOf broker work) ⟨0, 0, []⟩ =
      (.error error, asleepAfter course broker.pollInterval 0) := by
    rw [run_postOf_course, rejected]
  rw [waited, run_offer_of_error posting]

theorem waited_of_ok {posted : PostedTask} (accepted : course.posted = .ok posted) :
    waited debug blake3 decodeError course rounds broker work =
      (run (serveCourse course) (loop (poll debug blake3 decodeError broker.pollInterval
        (deadlineOf broker work) posted.taskId course.posting) rounds).run
          (asleepAfter course broker.pollInterval 0)).2 := by
  have posting : run (serveCourse course) (postOf broker work) ⟨0, 0, []⟩ =
      (.ok posted, asleepAfter course broker.pollInterval 0) := by
    rw [run_postOf_course, accepted]
  rw [waited, run_offer_of_ok posting run_now_course]
  rfl

theorem waited_of_pending {posted : PostedTask} (accepted : course.posted = .ok posted)
    (intime : ∀ round < rounds,
      elapsed course broker.pollInterval round ≤ deadlineOf broker work)
    (pending : ∀ round < rounds, Pending (course.reply round)) :
    waited debug blake3 decodeError course rounds broker work =
      asleepAfter course broker.pollInterval rounds := by
  rw [waited_of_ok accepted]
  apply congrArg Prod.snd (run_loop_worlds _)
  intro round bound
  exact run_poll_course_pending accepted (intime round bound) (pending round bound)

theorem waited_of_reply {posted : PostedTask} {ending : ℕ}
    (accepted : course.posted = .ok posted) (within : ending < rounds)
    (intime : ∀ round ≤ ending,
      elapsed course broker.pollInterval round ≤ deadlineOf broker work)
    (pending : ∀ round < ending, Pending (course.reply round))
    (ended : ¬ Pending (course.reply ending)) :
    waited debug blake3 decodeError course rounds broker work =
      repliedTo course broker.pollInterval ending := by
  rcases Option.ne_none_iff_exists'.mp fun undecided => ended (judge_eq_none_iff.mp undecided)
    with ⟨result, judged⟩
  have last : result.map some ≠ .ok none := by cases result <;> simp [Except.map]
  rw [waited_of_ok accepted]
  apply congrArg Prod.snd (run_loop_until within _
    (run_poll_course_judged accepted (intime ending (le_refl ending)) judged) last)
  intro round bound
  exact run_poll_course_pending accepted (intime round bound.le) (pending round bound)

/-- The sleep after a pending reply is part of the wait that the deadline caps. -/
theorem AnsweredInTime.of_capped {posted : PostedTask} (accepted : course.posted = .ok posted)
    (capped : Capped debug blake3 decodeError course broker work) :
    AnsweredInTime course broker.pollInterval (deadlineOf broker work) := by
  intro polls pending
  induction polls with
  | zero => exact Nat.zero_le _
  | succ polls ih =>
      have before := ih fun poll bound => pending poll (Nat.lt_succ_of_lt bound)
      have intime : ∀ round < polls + 1,
          elapsed course broker.pollInterval round ≤ deadlineOf broker work := by
        intro round bound
        exact le_trans (elapsed_mono course _ (Nat.le_of_lt_succ bound)) before
      have asleep := capped.sleeps (polls + 1)
      rw [waited_of_pending accepted intime pending] at asleep
      -- the sleep after the last of these polls
      have last := asleep _ (List.mem_map_of_mem (List.mem_range.mpr (Nat.lt_succ_self polls)))
      exact Nat.le_of_add_le_add_left last

theorem sleeps_asleepAfter {deadline : Duration} {polls : ℕ}
    (intime : ∀ poll ≤ polls, elapsed course broker.pollInterval poll ≤ deadline) :
    ∀ asleep ∈ (asleepAfter course broker.pollInterval polls).sleeps,
      asleep.2 ≤ course.posting + deadline := by
  intro asleep mem
  rcases List.mem_map.mp mem with ⟨poll, bound, rfl⟩
  exact Nat.add_le_add_left (intime (poll + 1) (List.mem_range.mp bound)) _

theorem Capped.of_answeredInTime {posted : PostedTask} (accepted : course.posted = .ok posted)
    (intime : AnsweredInTime course broker.pollInterval (deadlineOf broker work)) :
    Capped debug blake3 decodeError course broker work := by
  have bounded : ∀ {polls}, (∀ poll < polls, Pending (course.reply poll)) → ∀ poll ≤ polls,
      elapsed course broker.pollInterval poll ≤ deadlineOf broker work := by
    intro polls pending poll bound
    exact intime poll fun earlier before => pending earlier (before.trans_le bound)
  constructor
  case instant =>
    intro latency replies rounds
    rcases first_or_forall (fun poll => Pending (course.reply poll)) rounds with
      ⟨ending, within, ended, pending⟩ | pending
    · rw [waited_of_reply accepted within (bounded pending) pending ended]
      have last := bounded pending ending (le_refl ending)
      exact Nat.add_le_add (Nat.add_le_add_left last _) (replies ending)
    · rw [waited_of_pending accepted (fun round bound => bounded pending round bound.le) pending]
      have last := bounded pending rounds (le_refl rounds)
      exact le_trans (Nat.add_le_add_left last _) (Nat.le_add_right _ _)
  case sleeps =>
    intro rounds
    rcases first_or_forall (fun poll => Pending (course.reply poll)) rounds with
      ⟨ending, within, ended, pending⟩ | pending
    · rw [waited_of_reply accepted within (bounded pending) pending ended]
      exact sleeps_asleepAfter (bounded pending)
    · rw [waited_of_pending accepted (fun round bound => bounded pending round bound.le) pending]
      exact sleeps_asleepAfter (bounded pending)

/-- The deadline caps the wait exactly if the task, once posted, is answered in time. -/
theorem offer_capped_iff (debug : SdkError → String) (blake3 : Bytes → Octets 32)
    (decodeError : String → String) (course : Course) (broker : TenzroBroker) (work : WorkOffer) :
    Capped debug blake3 decodeError course broker work ↔
      ∀ posted, course.posted = .ok posted →
        AnsweredInTime course broker.pollInterval (deadlineOf broker work) := by
  constructor
  · intro capped posted accepted
    exact .of_capped accepted capped
  · intro intime
    cases accepted : course.posted with
    | ok posted => exact .of_answeredInTime accepted (intime posted accepted)
    | error error =>
        constructor
        case instant =>
          intro latency _ rounds
          rw [waited_of_error accepted]
          exact le_trans (Nat.le_add_right _ _) (Nat.le_add_right _ _)
        case sleeps =>
          intro rounds asleep mem
          rw [waited_of_error accepted] at mem
          cases mem

end

/-- The marketplace answers at once, and the task is never done. -/
def underWay : Course where
  posted := .ok ⟨"task-1"⟩
  posting := 0
  reply _ := .ok ⟨.string "running", none, none⟩
  latency _ := 0

/-- An offer with a deadline of three seconds, polled every two, still waits after four. -/
theorem offer_oversleeps :
    ¬ Capped (fun _ => "") (fun _ => Octets.replicate 32 0) (fun _ => "") underWay
      (busyBroker.withPollInterval (Duration.fromSecs 2))
      { noWork with deadlineSecs := some 3 } := by
  intro capped
  exact absurd (capped.instant 0 (fun _ => le_refl 0) 2) (by decide +kernel)

end TenzroEdge.Broker
