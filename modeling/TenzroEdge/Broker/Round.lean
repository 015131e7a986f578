import TenzroEdge.Broker.Offer

/-!
# A round of an offer

A round reads the clock, and gives up if the deadline has passed. Otherwise it asks for the task
and judges the reply: a failed poll and a terminal status end the offer, and any other status
makes the round sleep.
-/

namespace TenzroEdge.Broker

open Codec Interaction Interaction.Prog

/-! ## Replies -/

/-- The status ends an offer. -/
def Terminal (status : Json) : Prop := statusStr status ∈ ["completed", "failed", "cancelled"]

instance (status : Json) : Decidable (Terminal status) := inferInstanceAs (Decidable (_ ∈ _))

/-- The reply leaves its task under way. -/
def Pending (reply : Except SdkError TaskInfo) : Prop :=
  ∃ info, reply = .ok info ∧ ¬ Terminal info.status

/-- A marketplace that has been posted one task answers for no other. -/
def replyFor (posted : Except SdkError PostedTask) (taskId : String)
    (reply : Except SdkError TaskInfo) : Except SdkError TaskInfo :=
  if posted.toOption.map PostedTask.taskId = some taskId then reply
  else .error (.notFound taskId)

@[simp]
theorem replyFor_ok (posted : PostedTask) (reply : Except SdkError TaskInfo) :
    replyFor (.ok posted) posted.taskId reply = reply := by
  simp [replyFor, Except.toOption]

/-- What a terminal reply says about its task. -/
inductive Settled (blake3 : Bytes → Octets 32) (taskId : String) (info : TaskInfo) :
    WorkOutcome → Prop where
  | completed {response : Bytes} (status : statusStr info.status = "completed")
      (decoded : Base64.standard.decode (info.output.getD "") = some response) :
      Settled blake3 taskId info (.completed response (executorOf blake3 info.assignedAgent))
  | failed (status : statusStr info.status = "failed") :
      Settled blake3 taskId info (.failed ("task " ++ taskId ++ " failed"))
  | cancelled (status : statusStr info.status = "cancelled") :
      Settled blake3 taskId info (.refused ("task " ++ taskId ++ " cancelled"))

/-- What a round that gets the reply ends the offer with, if it does. -/
def judge (debug : SdkError → String) (blake3 : Bytes → Octets 32)
    (decodeError : String → String) (taskId : String) :
    Except SdkError TaskInfo → Option (Except WorkBrokerError WorkOutcome)
  | .error error => some (.error (mapSdk debug error))
  | .ok info =>
      match settle blake3 decodeError taskId info with
      | .error error => some (.error error)
      | .ok (some outcome) => some (.ok outcome)
      | .ok none => none

section

variable {debug : SdkError → String} {blake3 : Bytes → Octets 32} {decodeError : String → String}
  {taskId : String} {info : TaskInfo}

theorem settle_of_completed {response : Bytes} (status : statusStr info.status = "completed")
    (decoded : Base64.standard.decode (info.output.getD "") = some response) :
    settle blake3 decodeError taskId info =
      .ok (some (.completed response (executorOf blake3 info.assignedAgent))) := by
  simp [settle, status, decoded]

theorem settle_of_not_terminal (pending : ¬ Terminal info.status) :
    settle blake3 decodeError taskId info = .ok none := by
  have others : statusStr info.status ≠ "completed" ∧ statusStr info.status ≠ "failed" ∧
      statusStr info.status ≠ "cancelled" := by simpa [Terminal] using pending
  simp [settle, others]

theorem settled_of_settle {outcome : WorkOutcome}
    (settled : settle blake3 decodeError taskId info = .ok (some outcome)) :
    Settled blake3 taskId info outcome := by
  simp only [settle] at settled
  split at settled
  next status =>
    cases decoded : Base64.standard.decode (info.output.getD "") with
    | none => simp [decoded] at settled
    | some response =>
        have same : .completed response (executorOf blake3 info.assignedAgent) = outcome := by
          simpa [decoded] using settled
        rw [← same]
        exact .completed status decoded
  next =>
    split at settled
    next status =>
      cases settled
      exact .failed status
    next =>
      split at settled
      next status =>
        cases settled
        exact .cancelled status
      next => cases settled

theorem Settled.terminal {outcome : WorkOutcome} (settled : Settled blake3 taskId info outcome) :
    Terminal info.status := by
  cases settled with
  | completed status => simp [Terminal, status]
  | failed status => simp [Terminal, status]
  | cancelled status => simp [Terminal, status]

theorem not_terminal_of_settle (settled : settle blake3 decodeError taskId info = .ok none) :
    ¬ Terminal info.status := by
  intro terminal
  have words : statusStr info.status = "completed" ∨ statusStr info.status = "failed" ∨
      statusStr info.status = "cancelled" := by simpa [Terminal] using terminal
  simp only [settle] at settled
  rcases words with status | status | status
  · rw [status, if_pos rfl] at settled
    cases decoded : Base64.standard.decode (info.output.getD "") with
    | none => simp [decoded] at settled
    | some response => simp [decoded] at settled
  · simp [status] at settled
  · simp [status] at settled

theorem judge_eq_none_iff {reply : Except SdkError TaskInfo} :
    judge debug blake3 decodeError taskId reply = none ↔ Pending reply := by
  constructor
  · intro undecided
    cases reply with
    | error error => cases undecided
    | ok info =>
        cases settled : settle blake3 decodeError taskId info with
        | error error => simp [judge, settled] at undecided
        | ok outcome =>
            cases outcome with
            | none => exact ⟨info, rfl, not_terminal_of_settle settled⟩
            | some outcome => simp [judge, settled] at undecided
  · rintro ⟨info, rfl, pending⟩
    simp [judge, settle_of_not_terminal pending]

theorem settled_of_judge {reply : Except SdkError TaskInfo} {outcome : WorkOutcome}
    (judged : judge debug blake3 decodeError taskId reply = some (.ok outcome)) :
    ∃ info, reply = .ok info ∧ Settled blake3 taskId info outcome := by
  cases reply with
  | error error => simp [judge] at judged
  | ok info =>
      refine ⟨info, rfl, ?_⟩
      cases settled : settle blake3 decodeError taskId info with
      | error error => simp [judge, settled] at judged
      | ok result =>
          cases result with
          | none => simp [judge, settled] at judged
          | some result =>
              have same : result = outcome := by simpa [judge, settled] using judged
              rw [← same]
              exact settled_of_settle settled

end

/-! ## Rounds -/

section

variable {debug : SdkError → String} {blake3 : Bytes → Octets 32} {decodeError : String → String}
  {taskId : String} {interval deadline : Duration} {started current : ℕ} {σ : Type}
  {serve : Handler io σ} {before checked polled : σ} {reply : Except SdkError TaskInfo}

theorem run_poll_passed (reading : run serve now before = (current, checked))
    (late : deadline < current - started) :
    run serve (poll debug blake3 decodeError interval deadline taskId started).run before =
      (.ok (some (deadlineExceeded taskId deadline)), checked) := by
  rw [poll, run_lift_bind, reading]
  simp only [if_pos late]
  rfl

theorem run_poll_judged {result : Except WorkBrokerError WorkOutcome}
    (reading : run serve now before = (current, checked))
    (intime : ¬ deadline < current - started)
    (replied : run serve (getTask taskId) checked = (reply, polled))
    (judged : judge debug blake3 decodeError taskId reply = some result) :
    run serve (poll debug blake3 decodeError interval deadline taskId started).run before =
      (result.map some, polled) := by
  rw [poll, run_lift_bind, reading]
  simp only [if_neg intime]
  cases reply with
  | error error =>
      cases judged
      exact run_orFail_bind_of_error _ replied
  | ok info =>
      rw [run_orFail_bind_of_ok _ replied]
      cases settled : settle blake3 decodeError taskId info with
      | error error =>
          simp only [judge, settled] at judged
          cases judged
          rfl
      | ok outcome =>
          cases outcome with
          | none => simp [judge, settled] at judged
          | some outcome =>
              simp only [judge, settled] at judged
              cases judged
              rfl

theorem run_poll_pending (reading : run serve now before = (current, checked))
    (intime : ¬ deadline < current - started)
    (replied : run serve (getTask taskId) checked = (reply, polled)) (pending : Pending reply) :
    run serve (poll debug blake3 decodeError interval deadline taskId started).run before =
      (.ok none, (run serve (sleep interval) polled).2) := by
  rcases pending with ⟨info, rfl, underWay⟩
  rw [poll, run_lift_bind, reading]
  simp only [if_neg intime]
  rw [run_orFail_bind_of_ok _ replied, settle_of_not_terminal underWay]
  rfl

/-! ## Offers -/

/-- The request that posts the task of an offer. -/
def postOf (broker : TenzroBroker) (work : WorkOffer) : Prog io (Except SdkError PostedTask) :=
  postTask ("furcate:" ++ work.workType) "Posted by furcate WorkBroker (tenzro-edge)"
    work.workType (work.maxPrice.getD (BitVec.allOnes 128)) (Base64.standard.encode work.request)
    broker.poster

variable {broker : TenzroBroker} {work : WorkOffer} {posted : σ}

theorem run_offer_of_error {error : SdkError}
    (rejected : run serve (postOf broker work) before = (.error error, posted)) (rounds : ℕ) :
    run serve (offer debug blake3 decodeError rounds broker work).run before =
      (.error (mapSdk debug error), posted) :=
  run_orFail_bind_of_error _ rejected

theorem run_offer_of_ok {task : PostedTask} {waiting : σ}
    (accepted : run serve (postOf broker work) before = (.ok task, posted))
    (reading : run serve now posted = (started, waiting)) (rounds : ℕ) :
    run serve (offer debug blake3 decodeError rounds broker work).run before =
      run serve (loop (poll debug blake3 decodeError broker.pollInterval (deadlineOf broker work)
        task.taskId started) rounds).run waiting := by
  change run serve (orFail (mapSdk debug) (postOf broker work) >>= _).run before = _
  rw [run_orFail_bind_of_ok _ accepted, run_lift_bind, reading]

end

end TenzroEdge.Broker
