import TenzroEdge.WorkSettlement.Gateway

/-!
# Settlement under retry

The remote executes every request it receives and does not look at memos; the
network may lose a request, or the reply to a request that was executed. The SDK
reports both in the same way, the gateway calls both transient, and its requests
carry nothing by which the remote could tell a repetition from a new call. So a
caller that repeats an operation on transient errors has it executed once for each
attempt that reached the remote.
-/

namespace TenzroEdge.WorkSettlement

open Codec Interaction Interaction.Prog

variable {debug : SdkError → String} {gateway : TenzroWorkSettlement} {σ : Type}

/-- A remote that executes every request it receives. -/
structure Remote (σ : Type) where
  execute : (cmd : Cmd) → σ → Answer cmd × σ

def Remote.serve (remote : Remote σ) : Handler nanopayment σ := fun cmd state =>
  (.ok (remote.execute cmd state).1, (remote.execute cmd state).2)

inductive Fault where
  | timeout
  | connection (message : String)
deriving DecidableEq

def Fault.error : Fault → SdkError
  | .timeout => .timeout
  | .connection message => .connectionError message

/-- A remote behind the network: one request at a time meets the next delivery of the script. -/
def Remote.flaky (remote : Remote σ) :
    Handler nanopayment (Recorded nanopayment σ × Stream' (Delivery Fault)) :=
  scripted (overNetwork (fun _ fault => .error fault.error) remote.serve)

/-- The caller repeats an operation exactly when its error is transient. -/
def isTransient {α : Type} : Except WorkSettlementError α → Bool
  | .error (.transient _) => true
  | _ => false

def repeated (debug : SdkError → String) (gateway : TenzroWorkSettlement) (attempts : ℕ)
    (remote : Remote σ) (world : Recorded nanopayment σ × Stream' (Delivery Fault)) :
    Call → Recorded nanopayment σ × Stream' (Delivery Fault)
  | .openChannel counterparty deposit =>
      (run remote.flaky
        (retry isTransient (openChannel debug gateway counterparty deposit).run attempts) world).2
  | .sendMicropayment channel counterparty amount forWork =>
      (run remote.flaky
        (retry isTransient (sendMicropayment debug channel counterparty amount forWork).run
          attempts) world).2
  | .closeChannel channel =>
      (run remote.flaky (retry isTransient (closeChannel debug channel).run attempts) world).2

theorem isTransient_fault {α β : Type} (finish : α → β) (fault : Fault) :
    isTransient (((.error fault.error : Except SdkError α).mapError (mapSdk debug)).map finish) =
      true := by
  cases fault <;> rfl

/-- Repeating one request executes it once for each attempt that reaches the remote. -/
theorem retried_request {α : Type} (remote : Remote σ) (cmd : Cmd) (finish : Answer cmd → α)
    (attempts : ℕ) (before : Recorded nanopayment σ) (script : Stream' (Delivery Fault)) :
    ∃ made, Retried (I := nanopayment) cmd remote.serve attempts script before
      (run remote.flaky (retry isTransient
        (.call (I := nanopayment) cmd fun (reply : Except SdkError (Answer cmd)) =>
          .ret ((reply.mapError (mapSdk debug)).map finish)) attempts) (before, script)).2 made :=
  run_retry_request (I := nanopayment) (isTransient_fault finish) (fun _ => rfl) attempts before
    script

/-- What repeating one operation did to the remote and how much of the network's script it used
up, if the operation makes a request at all. -/
def Repeated (request : Option Cmd) (attempts : ℕ) (remote : Remote σ)
    (before after : Recorded nanopayment σ × Stream' (Delivery Fault)) : Prop :=
  match request with
  | none => after = before
  | some cmd => ∃ made,
      Retried (I := nanopayment) cmd remote.serve attempts before.2 before.1 after made

/-- However the network treats the attempts, an operation is executed once for each attempt that
reached the remote; all but one of these have lost their reply. -/
theorem repeated_executions (remote : Remote σ) (call : Call) (attempts : ℕ)
    (before : Recorded nanopayment σ) (script : Stream' (Delivery Fault)) :
    Repeated (call.request gateway) attempts remote (before, script)
      (repeated debug gateway attempts remote (before, script) call) := by
  cases call with
  | openChannel counterparty deposit =>
      simp only [repeated, Call.request]
      rcases valid : depositOf deposit with error | ⟨units, asset⟩
      · rw [openChannel_of_error valid]
        exact run_retry_ret _ _ _ _
      · rw [openChannel_of_ok valid]
        exact retried_request remote (.openChannel gateway.payer counterparty units asset) _
          attempts before script
  | sendMicropayment channel counterparty amount forWork =>
      rcases channel with _ | channel
      · exact run_retry_ret remote.flaky _ _ _
      · simp only [repeated, Call.request]
        rcases valid : amountToU64 amount with error | units
        · rw [sendMicropayment_of_error valid]
          exact run_retry_ret _ _ _ _
        · rw [sendMicropayment_of_ok valid]
          exact retried_request remote (.sendNanopayment channel.id units _) _ attempts before
            script
  | closeChannel channel =>
      simp only [repeated, Call.request, closeChannel_eq]
      exact retried_request remote (.closeChannel channel.id) _ attempts before script

def answering : Remote Unit where
  execute
    | .openChannel _ _ _ _, _ => (⟨"channel-1"⟩, ())
    | .sendNanopayment channelId _ _, _ => (⟨"payment-1", channelId⟩, ())
    | .closeChannel _, _ => ((), ())

/-- The reply to the first request is lost, and everything is delivered from then on. -/
def firstReplyLost : Stream' (Delivery Fault) :=
  Stream'.cons (.replyLost .timeout) (Stream'.const .delivered)

/-- One lost reply makes a caller open two channels, and settle one receipt twice. -/
theorem repeated_executes_twice :
    ¬ (∀ script attempts, (repeated (fun _ => "") ⟨"alice"⟩ attempts answering
        (⟨(), []⟩, script) (.openChannel "bob" (some ⟨"5", "TZN"⟩))).1.executed.length ≤ 1) ∧
      ¬ (∀ script attempts, (repeated (fun _ => "") ⟨"alice"⟩ attempts answering
        (⟨(), []⟩, script) (.sendMicropayment (some ⟨"channel-1"⟩) "bob" ⟨"5", "TZN"⟩
          (Octets.replicate 32 0))).1.executed.length ≤ 1) := by
  constructor
  · intro once
    exact absurd (once firstReplyLost 2) (by decide)
  · intro once
    exact absurd (once firstReplyLost 2) (by decide)

end TenzroEdge.WorkSettlement
