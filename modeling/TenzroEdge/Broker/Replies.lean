import TenzroEdge.Broker.Script

/-!
# What an offer reports

An offer reports what the first terminal reply says, or that the deadline has passed before
there was one. A completed reply carries the response as a Base64 text, the form in which the
request was posted; one without an output counts as one whose output is the empty text.
-/

namespace TenzroEdge.Broker

open Codec

structure FirstTerminal (script : Script) (input : String) (round : ℕ) (info : TaskInfo) :
    Prop where
  replied : script.reply input round = .ok info
  terminal : Terminal info.status
  pending : ∀ earlier < round, Pending (script.reply input earlier)

section

variable {script : Script} {input : String} {round other : ℕ} {info otherInfo : TaskInfo}

theorem FirstTerminal.le (first : FirstTerminal script input round info)
    (second : FirstTerminal script input other otherInfo) : round ≤ other := by
  by_contra later
  rcases first.pending other (not_le.mp later) with ⟨reply, replied, pending⟩
  rw [second.replied] at replied
  cases replied
  exact pending second.terminal

theorem FirstTerminal.info_unique (first : FirstTerminal script input round info)
    (second : FirstTerminal script input other otherInfo) : info = otherInfo := by
  have same : round = other := le_antisymm (first.le second) (second.le first)
  subst same
  exact Except.ok.inj (first.replied.symm.trans second.replied)

end

/-! ## The outcome of an offer -/

/-- What the marketplace and the clock say that an offer may report. -/
inductive Reported (blake3 : Bytes → Octets 32) (script : Script) (input taskId : String)
    (deadline : Duration) : WorkOutcome → Prop where
  | settled {round : ℕ} {info : TaskInfo} {outcome : WorkOutcome}
      (first : FirstTerminal script input round info)
      (settled : Settled blake3 taskId info outcome) :
      Reported blake3 script input taskId deadline outcome
  | exceeded {round : ℕ} (late : Late script deadline round)
      (pending : ∀ earlier < round, Pending (script.reply input earlier)) :
      Reported blake3 script input taskId deadline (deadlineExceeded taskId deadline)

section

variable {debug : SdkError → String} {blake3 : Bytes → Octets 32} {decodeError : String → String}
  {script : Script} {input taskId : String} {deadline : Duration} {broker : TenzroBroker}
  {work : WorkOffer} {rounds : ℕ}

theorem reported_of_ends {ending : ℕ} {outcome : WorkOutcome}
    (ends : Ends debug blake3 decodeError script input taskId deadline ending (.ok outcome)) :
    Reported blake3 script input taskId deadline outcome := by
  have pending : ∀ earlier < ending, Pending (script.reply input earlier) := by
    intro earlier bound
    exact (verdict_eq_none_iff.mp (ends.undecided earlier bound)).2
  by_cases late : Late script deadline ending
  · have same : deadlineExceeded taskId deadline = outcome := by
      simpa [verdict, late] using ends.judged
    rw [← same]
    exact .exceeded late pending
  · have judged : judge debug blake3 decodeError taskId (script.reply input ending) =
        some (.ok outcome) := by simpa [verdict, late] using ends.judged
    rcases settled_of_judge judged with ⟨info, replied, settled⟩
    exact .settled ⟨replied, settled.terminal, pending⟩ settled

theorem reported_of_offered {outcome : WorkOutcome}
    (returned : (offered debug blake3 decodeError script rounds broker work).1 =
      .ok (some outcome)) :
    ∃ taskId, Reported blake3 script (inputOf work) taskId (deadlineOf broker work) outcome := by
  cases accepted : script.posted with
  | error error =>
      rw [offered_of_error accepted] at returned
      cases returned
  | ok posted =>
      refine ⟨posted.taskId, ?_⟩
      rcases ends_or_noVerdict debug blake3 decodeError script (inputOf work) posted.taskId
        (deadlineOf broker work) rounds with ⟨ending, within, result, ends⟩ | undecided
      · rw [offered_of_ends accepted ends within] at returned
        cases result with
        | error error => cases returned
        | ok result =>
            cases returned
            exact reported_of_ends ends
      · rw [offered_of_noVerdict accepted undecided] at returned
        cases returned

/-- The texts of the two kinds of failure begin with different letters. -/
theorem deadlineExceeded_ne (taskId other : String) (deadline : Duration) :
    deadlineExceeded taskId deadline ≠ .failed ("task " ++ other ++ " failed") := by
  intro same
  have texts : "deadline " ++ deadline.debug ++ " exceeded for task " ++ taskId =
      "task " ++ other ++ " failed" := WorkOutcome.failed.inj same
  have heads := congrArg (fun text => text.toList.head?) texts
  simp at heads

/-- Every outcome stands for what the first terminal reply says, or for a deadline that has passed
before there was one. -/
theorem offer_reports (debug : SdkError → String) (blake3 : Bytes → Octets 32)
    (decodeError : String → String) (script : Script) (rounds : ℕ) (broker : TenzroBroker)
    (work : WorkOffer) :
    let outcome := (offered debug blake3 decodeError script rounds broker work).1
    (∀ response executor, outcome = .ok (some (.completed response executor)) →
      ∃ round info, FirstTerminal script (inputOf work) round info ∧
        statusStr info.status = "completed" ∧
        Base64.standard.decode (info.output.getD "") = some response ∧
        executor = executorOf blake3 info.assignedAgent) ∧
    (∀ reason, outcome = .ok (some (.refused reason)) →
      ∃ round info, FirstTerminal script (inputOf work) round info ∧
        statusStr info.status = "cancelled") ∧
    (∀ taskId, outcome = .ok (some (.failed ("task " ++ taskId ++ " failed"))) →
      ∃ round info, FirstTerminal script (inputOf work) round info ∧
        statusStr info.status = "failed") ∧
    (∀ taskId deadline, outcome = .ok (some (deadlineExceeded taskId deadline)) →
      ∃ round, Late script (deadlineOf broker work) round ∧
        ∀ earlier < round, Pending (script.reply (inputOf work) earlier)) := by
  refine ⟨?_, ?_, ?_, ?_⟩
  · intro response executor returned
    rcases reported_of_offered returned with ⟨taskId, reported⟩
    cases reported with
    | settled first settled =>
        cases settled with
        | completed status decoded => exact ⟨_, _, first, status, decoded, rfl⟩
  · intro reason returned
    rcases reported_of_offered returned with ⟨taskId, reported⟩
    cases reported with
    | settled first settled =>
        cases settled with
        | cancelled status => exact ⟨_, _, first, status⟩
  · intro taskId returned
    rcases reported_of_offered returned with ⟨posted, reported⟩
    generalize named : WorkOutcome.failed ("task " ++ taskId ++ " failed") = outcome at reported
    cases reported with
    | settled first settled =>
        cases settled with
        | completed => cases named
        | failed status => exact ⟨_, _, first, status⟩
        | cancelled => cases named
    | exceeded => exact absurd named.symm (deadlineExceeded_ne _ _ _)
  · intro taskId deadline returned
    rcases reported_of_offered returned with ⟨posted, reported⟩
    generalize named : deadlineExceeded taskId deadline = outcome at reported
    cases reported with
    | settled first settled =>
        cases settled with
        | completed => cases named
        | failed => exact absurd named (deadlineExceeded_ne _ _ _)
        | cancelled => cases named
    | exceeded late pending => exact ⟨_, late, pending⟩

end

def hourlyBroker : TenzroBroker where
  poster := Octets.replicate 32 0
  pollInterval := Duration.fromSecs 2
  defaultDeadline := Duration.fromSecs 3600

def threeOctets : WorkOffer where
  workType := "reverse"
  request := [1, 2, 255]
  maxPrice := none
  deadlineSecs := none

/-- The first poll finds the task completed, without an output. -/
def withoutOutput : Script where
  posted := .ok ⟨"task-1"⟩
  clock _ := 0
  reply _ _ := .ok ⟨.string "completed", none, none⟩

/-- A completed reply without an output is reported as completed with the empty response. -/
theorem offer_completes_without_output :
    ¬ ∀ (script : Script) (rounds : ℕ) (broker : TenzroBroker) (work : WorkOffer) response executor,
      (offered (fun _ => "") (fun _ => Octets.replicate 32 0) (fun _ => "") script rounds broker
        work).1 = .ok (some (.completed response executor)) →
      ∃ round info output, FirstTerminal script (inputOf work) round info ∧
        statusStr info.status = "completed" ∧ info.output = some output := by
  intro carried
  rcases carried withoutOutput 1 hourlyBroker threeOctets [] (Octets.replicate 32 0) rfl with
    ⟨round, info, output, first, _, present⟩
  have replied : (.ok ⟨.string "completed", none, none⟩ : Except SdkError TaskInfo) = .ok info :=
    first.replied
  cases replied
  cases present

/-! ## The work of an executor -/

section

variable {debug : SdkError → String} {blake3 : Bytes → Octets 32} {decodeError : String → String}
  {script : Script} {input : String} {deadline : Duration}

/-- The output of an executor that applies a function to the request it is given. -/
def outputOf (f : Bytes → Bytes) (input : String) : Option String :=
  (Base64.standard.decode input).map fun request => Base64.standard.encode (f request)

theorem outputOf_inputOf (f : Bytes → Bytes) (work : WorkOffer) :
    outputOf f (inputOf work) = some (Base64.standard.encode (f work.request)) := by
  rw [outputOf, inputOf, Base64.decode_encode, Option.map_some]

theorem offered_input (debug : SdkError → String) (blake3 : Bytes → Octets 32)
    (decodeError : String → String) (script : Script) (rounds : ℕ) (broker : TenzroBroker)
    (work : WorkOffer) :
    (offered debug blake3 decodeError script rounds broker work).2.input = inputOf work := by
  cases accepted : script.posted with
  | error error => rw [offered_of_error accepted]
  | ok posted =>
      rcases ends_or_noVerdict debug blake3 decodeError script (inputOf work) posted.taskId
        (deadlineOf broker work) rounds with ⟨ending, within, result, ends⟩ | undecided
      · rw [offered_of_ends accepted ends within]
      · rw [offered_of_noVerdict accepted undecided, waiting]

theorem FirstTerminal.ends {round : ℕ} {info : TaskInfo} {response : Bytes}
    (first : FirstTerminal script input round info)
    (intime : ∀ earlier ≤ round, ¬ Late script deadline earlier)
    (status : statusStr info.status = "completed")
    (decoded : Base64.standard.decode (info.output.getD "") = some response) (taskId : String) :
    Ends debug blake3 decodeError script input taskId deadline round
      (.ok (.completed response (executorOf blake3 info.assignedAgent))) := by
  constructor
  case judged =>
    rw [verdict, if_neg (intime round (le_refl round)), first.replied, judge,
      settle_of_completed status decoded]
  case undecided =>
    intro earlier bound
    exact verdict_eq_none_iff.mpr ⟨intime earlier bound.le, first.pending earlier bound⟩

/-- The executor is given the octets of the request, and its response comes back unchanged. -/
theorem offer_transports (debug : SdkError → String) (blake3 : Bytes → Octets 32)
    (decodeError : String → String) (f : Bytes → Bytes) (script : Script) (rounds : ℕ)
    (broker : TenzroBroker) (work : WorkOffer) :
    let outcome := offered debug blake3 decodeError script rounds broker work
    Base64.standard.decode outcome.2.input = some work.request ∧
      ∀ posted round info, script.posted = .ok posted → round < rounds →
        (∀ earlier ≤ round, ¬ Late script (deadlineOf broker work) earlier) →
        FirstTerminal script outcome.2.input round info →
        statusStr info.status = "completed" → info.output = outputOf f outcome.2.input →
        outcome.1 = .ok (some
          (.completed (f work.request) (executorOf blake3 info.assignedAgent))) := by
  intro outcome
  have posts : outcome.2.input = inputOf work := offered_input _ _ _ _ _ _ _
  constructor
  · rw [posts, inputOf, Base64.decode_encode]
  · intro posted round info accepted within intime first status output
    rw [posts] at first output
    have decoded : Base64.standard.decode (info.output.getD "") = some (f work.request) := by
      rw [output, outputOf_inputOf, Option.getD_some, Base64.decode_encode]
    have ends : Ends debug blake3 decodeError script (inputOf work) posted.taskId
      (deadlineOf broker work) round _ := first.ends intime status decoded posted.taskId
    change (offered _ _ _ _ _ _ _).1 = _
    rw [offered_of_ends accepted ends within]
    rfl

end

/-- The second poll finds the task completed by an executor that reverses its request. -/
def reversed : Script where
  posted := .ok ⟨"task-1"⟩
  clock reading := Duration.fromSecs (2 * reading)
  reply input round :=
    if round = 0 then .ok ⟨.string "Running", none, none⟩
    else .ok ⟨.string "Completed", outputOf List.reverse input, none⟩

theorem firstTerminal_reversed (input : String) :
    FirstTerminal reversed input 1
      ⟨.string "Completed", outputOf List.reverse input, none⟩ := by
  have completed : Terminal (.string "Completed") := by decide
  have running : ¬ Terminal (.string "Running") := by decide
  refine ⟨rfl, completed, ?_⟩
  intro earlier bound
  rw [Nat.lt_one_iff.mp bound]
  exact ⟨⟨.string "Running", none, none⟩, rfl, running⟩

theorem offer_transports_reversed :
    (offered (fun _ => "") (fun _ => Octets.replicate 32 0) (fun _ => "") reversed 2 hourlyBroker
      threeOctets).1 = .ok (some (.completed [255, 2, 1] (Octets.replicate 32 0))) :=
  (offer_transports _ _ _ List.reverse reversed 2 hourlyBroker threeOctets).2 ⟨"task-1"⟩ 1 _ rfl
    (by decide) (by decide) (firstTerminal_reversed _) (by decide) rfl

end TenzroEdge.Broker
