import TenzroEdge.WorkSettlement.Amounts
import TenzroEdge.WorkSettlement.Channels

/-!
# Auditing a session

The receipts that the callers of a session hold are compared with the transfers in the ledger of the
remote. Every receipt stands for a transfer of its own, in the order of the ledger, and the memo
of the transfer leads back to the work that was paid for. A transfer without a receipt was made by
a payment whose reply was lost.
-/

namespace TenzroEdge.WorkSettlement

open Codec Interaction Interaction.Prog

/-- The receipt that an operation returns. -/
def Turn.receipt (debug : SdkError → String) (world : Recorded nanopayment Ledger) (turn : Turn) :
    Option SettlementReceipt :=
  match turn.call with
  | .openChannel _ _ => none
  | .sendMicropayment channel counterparty amount forWork =>
      (run (remote turn.decision turn.delivery)
        (sendMicropayment debug channel counterparty amount forWork).run world).1.toOption
  | .closeChannel _ => none

/-- The receipts of a session, each with the operation that returned it, the oldest first. -/
def receipts (debug : SdkError → String) :
    Recorded nanopayment Ledger → List Turn → List (Turn × SettlementReceipt)
  | _, [] => []
  | world, turn :: rest =>
      (turn.receipt debug world).toList.map (turn, ·) ++
        receipts debug (turn.perform debug world) rest

/-- The transfer is what the operation asked for, on account of the work. -/
structure Pays (turn : Turn) (forWork : ReceiptDigest) (transfer : Transfer) : Prop where
  call : ∃ counterparty amount,
    turn.call = .sendMicropayment (some ⟨transfer.channelId⟩) counterparty amount forWork ∧
      Denotes amount.value transfer.units.toNat
  memo : hexDecode transfer.memo = some forWork.bytes

structure Acknowledges (given : Turn × SettlementReceipt) (transfer : Transfer) : Prop where
  pays : Pays given.1 given.2.forWork transfer
  channel : given.2.channel = some ⟨transfer.channelId⟩

/-- What one operation does to the transfers, and what it returns for it. -/
inductive Settles (turn : Turn) (transfers : List Transfer) :
    Option SettlementReceipt → List Transfer → Prop where
  | untouched : Settles turn transfers none transfers
  | acknowledged {receipt : SettlementReceipt} {transfer : Transfer}
      (acknowledges : Acknowledges (turn, receipt) transfer) :
      Settles turn transfers (some receipt) (transfer :: transfers)
  | unacknowledged {forWork : ReceiptDigest} {transfer : Transfer}
      (lost : turn.delivery.losesReply = true) (pays : Pays turn forWork transfer) :
      Settles turn transfers none (transfer :: transfers)

section

variable {debug : SdkError → String} {world : Recorded nanopayment Ledger} {turn : Turn}

/-- A payment that is executed moves one transfer, and a refused one nothing. -/
theorem respond_sendNanopayment (decision : Decision) (ledger : Ledger) (channelId memo : String)
    (units : UInt64) :
    respond decision (.sendNanopayment channelId units memo) ledger =
        (.error decision.error, ledger) ∨
      ∃ terms : Terms, respond decision (.sendNanopayment channelId units memo) ledger =
        (.ok ⟨decision.id, channelId⟩, { ledger with
          transfers := ⟨channelId, terms.counterparty, terms.asset, units, memo⟩ ::
            ledger.transfers }) := by
  cases accepts : decision.accepts with
  | false => exact .inl (by simp [respond, accepts])
  | true =>
      cases known : ledger.channels channelId with
      | none => exact .inl (by simp [respond, accepts, Ledger.execute, known])
      | some terms =>
          by_cases closed : channelId ∈ ledger.closed
          · exact .inl (by simp [respond, accepts, Ledger.execute, known, closed])
          · exact .inr ⟨terms, by simp [respond, accepts, Ledger.execute, known, closed]⟩

theorem transfers_respond_openChannel (decision : Decision) (ledger : Ledger)
    (payer counterparty asset : String) (deposit : UInt64) :
    (respond decision (.openChannel payer counterparty deposit asset) ledger).2.transfers =
      ledger.transfers := by
  cases accepts : decision.accepts with
  | false => simp [respond, accepts]
  | true =>
      cases taken : ledger.channels decision.id <;>
        simp [respond, accepts, Ledger.execute, taken]

theorem transfers_respond_closeChannel (decision : Decision) (ledger : Ledger)
    (channelId : String) :
    (respond decision (.closeChannel channelId) ledger).2.transfers = ledger.transfers := by
  cases accepts : decision.accepts with
  | false => simp [respond, accepts]
  | true =>
      cases known : ledger.channels channelId <;>
        simp [respond, accepts, Ledger.execute, known]

/-- Only a payment moves anything. -/
theorem transfers_perform (other : ∀ channelId units memo,
    turn.call.request turn.gateway ≠ some (.sendNanopayment channelId units memo)) :
    (turn.perform debug world).state.transfers = world.state.transfers := by
  rw [perform_eq]
  cases request : turn.call.request turn.gateway with
  | none => rfl
  | some cmd =>
      simp only [state_remote]
      split
      · cases cmd with
        | openChannel payer counterparty deposit asset =>
            exact transfers_respond_openChannel turn.decision world.state payer counterparty asset
              deposit
        | sendNanopayment channelId units memo => exact absurd request (other channelId units memo)
        | closeChannel channelId =>
            exact transfers_respond_closeChannel turn.decision world.state channelId
      · rfl

theorem request_openChannel_ne (gateway : TenzroWorkSettlement) (counterparty : String)
    (deposit : Option Amount) (channelId memo : String) (units : UInt64) :
    (Call.openChannel counterparty deposit).request gateway ≠
      some (.sendNanopayment channelId units memo) := by
  intro request
  simp only [Call.request] at request
  split at request <;> cases request

theorem settles_perform : Settles turn world.state.transfers (turn.receipt debug world)
    (turn.perform debug world).state.transfers := by
  rcases turn with ⟨gateway, call, decision, delivery⟩
  cases call with
  | openChannel counterparty deposit =>
      rw [transfers_perform fun id units memo =>
        request_openChannel_ne gateway counterparty deposit id memo units]
      exact .untouched
  | closeChannel channel =>
      rw [transfers_perform fun _ _ _ request => by cases request]
      exact .untouched
  | sendMicropayment channel counterparty amount forWork =>
      rcases channel with _ | channel
      · exact .untouched
      cases valid : amountToU64 amount with
      | error error =>
          simp only [Turn.receipt, Turn.perform]
          rw [sendMicropayment_of_error valid]
          exact .untouched
      | ok units =>
          have paying : ∀ terms : Terms, Pays ⟨gateway,
              .sendMicropayment (some channel) counterparty amount forWork, decision, delivery⟩
              forWork ⟨channel.id, terms.counterparty, terms.asset, units,
                hexEncode forWork.bytes⟩ := fun terms =>
            ⟨⟨counterparty, amount, rfl, amountToU64_eq_ok_iff.mp valid⟩,
              hexDecode_hexEncode forWork.bytes⟩
          simp only [Turn.receipt, Turn.perform]
          rw [run_sendMicropayment_of_ok _ _ valid]
          rcases respond_sendNanopayment decision world.state channel.id
            (hexEncode forWork.bytes) units with refused | ⟨terms, executed⟩
          · cases delivery with
            | lost fault => exact .untouched
            | delivered =>
                simp only [remote, overNetwork, refused]
                exact .untouched
            | replyLost fault =>
                simp only [remote, overNetwork, refused]
                exact .untouched
          · cases delivery with
            | lost fault => exact .untouched
            | delivered =>
                simp only [remote, overNetwork, executed]
                exact .acknowledged ⟨paying terms, rfl⟩
            | replyLost fault =>
                simp only [remote, overNetwork, executed]
                exact .unacknowledged rfl (paying terms)

/-- The transfers of a session are those its receipts stand for, in order, and those of payments
whose reply was lost. -/
theorem receipts_account (turns : List Turn) : ∃ moved confirmed unconfirmed lost,
    (turns.foldl (Turn.perform debug) world).state.transfers =
        moved.reverse ++ world.state.transfers ∧
      moved.Perm (confirmed ++ unconfirmed) ∧ confirmed.Sublist moved ∧
      List.Forall₂ Acknowledges (receipts debug world turns) confirmed ∧
      List.Forall₂ (fun turn transfer => ∃ forWork, Pays turn forWork transfer) lost unconfirmed ∧
      lost.Sublist (turns.filter fun turn => turn.delivery.losesReply) := by
  induction turns generalizing world with
  | nil => exact ⟨[], [], [], [], rfl, .nil, .slnil, .nil, .nil, .slnil⟩
  | cons turn rest ih =>
      rcases @ih (turn.perform debug world) with
        ⟨moved, confirmed, unconfirmed, lost, transfers, perm, ordered, acknowledged, unanswered,
          among⟩
      have step : Settles turn world.state.transfers (turn.receipt debug world)
          (turn.perform debug world).state.transfers := settles_perform
      have later : lost.Sublist ((turn :: rest).filter fun turn => turn.delivery.losesReply) :=
        among.trans ((List.sublist_cons_self turn rest).filter _)
      rw [List.foldl_cons, transfers]
      simp only [receipts]
      generalize (turn.perform debug world).state.transfers = after at step
      generalize turn.receipt debug world = given at step
      cases step with
      | untouched =>
          exact ⟨moved, confirmed, unconfirmed, lost, rfl, perm, ordered, acknowledged, unanswered,
            later⟩
      | @acknowledged receipt transfer acknowledges =>
          refine ⟨transfer :: moved, transfer :: confirmed, unconfirmed, lost, by simp,
            perm.cons transfer, ordered.cons_cons transfer, .cons acknowledges acknowledged,
            unanswered, later⟩
      | @unacknowledged forWork transfer losesReply pays =>
          refine ⟨transfer :: moved, confirmed, transfer :: unconfirmed, turn :: lost, by simp,
            (perm.cons transfer).trans List.perm_middle.symm, ordered.cons transfer, acknowledged,
            .cons ⟨forWork, pays⟩ unanswered, ?_⟩
          have kept : (turn :: rest).filter (fun turn => turn.delivery.losesReply) =
              turn :: rest.filter fun turn => turn.delivery.losesReply :=
            List.filter_cons_of_pos losesReply
          rw [kept]
          exact among.cons_cons turn

end

end TenzroEdge.WorkSettlement
