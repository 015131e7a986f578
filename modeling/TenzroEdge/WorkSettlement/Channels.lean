import TenzroEdge.WorkSettlement.Gateway

/-!
# What a payment moves

The remote keeps a table of channels, each with the terms of the request that
opened it, and a record of transfers. A session is any sequence of operations of
any number of gateways; for each, the remote decides whether it accepts the request
and under which identifier, and the network may lose the request or its reply.

A payment that returns a receipt has moved exactly the units its amount denotes, to
the counterparty and in the asset that the operation which created the channel had
named. The counterparty and the asset that are handed to the payment itself play no
part: the gateway keeps no table of its own to compare them with.
-/

namespace TenzroEdge.WorkSettlement

open Codec Interaction Interaction.Prog

/-! ## The remote -/

structure Terms where
  payer : String
  counterparty : String
  deposit : UInt64
  asset : String

structure Transfer where
  channelId : String
  counterparty : String
  asset : String
  units : UInt64
  memo : String

/-- The channels ever opened, those closed since, and the transfers, the latest first. -/
structure Ledger where
  channels : String → Option Terms
  closed : List String
  transfers : List Transfer

namespace Ledger

def empty : Ledger where
  channels _ := none
  closed := []
  transfers := []

/-- Execute a request that the ledger allows. The identifier is for the channel or the payment
that the request creates; that of a channel has to be new. -/
def execute (ledger : Ledger) (id : String) : (cmd : Cmd) → Option (Answer cmd × Ledger)
  | .openChannel payer counterparty deposit asset =>
      match ledger.channels id with
      | some _ => none
      | none => some (⟨id⟩, { ledger with
          channels := Function.update ledger.channels id
            (some { payer, counterparty, deposit, asset }) })
  | .sendNanopayment channelId units memo =>
      match ledger.channels channelId with
      | none => none
      | some terms =>
          if channelId ∈ ledger.closed then none
          else some (⟨id, channelId⟩, { ledger with
            transfers := ⟨channelId, terms.counterparty, terms.asset, units, memo⟩ ::
              ledger.transfers })
  | .closeChannel channelId =>
      match ledger.channels channelId with
      | none => none
      | some _ => some ((), { ledger with closed := channelId :: ledger.closed })

end Ledger

structure Decision where
  accepts : Bool
  error : SdkError
  id : String

/-- The remote executes what it accepts and the ledger allows. -/
def respond (decision : Decision) : Handler nanopayment Ledger := fun cmd ledger =>
  match if decision.accepts then ledger.execute decision.id cmd else none with
  | some (answer, after) => (.ok answer, after)
  | none => (.error decision.error, ledger)

def remote (decision : Decision) (delivery : Delivery SdkError) :
    Handler nanopayment (Recorded nanopayment Ledger) :=
  overNetwork (fun _ fault => .error fault) (respond decision) delivery

theorem state_remote (decision : Decision) (delivery : Delivery SdkError) (cmd : Cmd)
    (world : Recorded nanopayment Ledger) :
    (remote decision delivery cmd world).2.state =
      if delivery.executes then (respond decision cmd world.state).2 else world.state := by
  cases delivery <;> rfl

/-! ## Sessions -/

/-- One operation of one gateway, and how the remote and the network treat it. -/
structure Turn where
  gateway : TenzroWorkSettlement
  call : Call
  decision : Decision
  delivery : Delivery SdkError

def Turn.perform (debug : SdkError → String) (world : Recorded nanopayment Ledger) (turn : Turn) :
    Recorded nanopayment Ledger :=
  match turn.call with
  | .openChannel counterparty deposit =>
      (run (remote turn.decision turn.delivery)
        (openChannel debug turn.gateway counterparty deposit).run world).2
  | .sendMicropayment channel counterparty amount forWork =>
      (run (remote turn.decision turn.delivery)
        (sendMicropayment debug channel counterparty amount forWork).run world).2
  | .closeChannel channel =>
      (run (remote turn.decision turn.delivery) (closeChannel debug channel).run world).2

def session (debug : SdkError → String) (turns : List Turn) : Recorded nanopayment Ledger :=
  turns.foldl (Turn.perform debug) ⟨.empty, []⟩

section

variable {debug : SdkError → String} {world : Recorded nanopayment Ledger} {turn : Turn}
  {turns : List Turn} {id : String} {terms : Terms}

theorem perform_eq : turn.perform debug world =
    match turn.call.request turn.gateway with
    | some cmd => (remote turn.decision turn.delivery cmd world).2
    | none => world := by
  rcases turn with ⟨gateway, call, decision, delivery⟩
  cases call with
  | openChannel counterparty deposit =>
      simp only [Turn.perform, Call.request]
      rcases valid : depositOf deposit with error | ⟨units, asset⟩
      · rw [openChannel_of_error valid]
        rfl
      · rw [openChannel_of_ok valid]
        rfl
  | sendMicropayment channel counterparty amount forWork =>
      rcases channel with _ | channel
      · rfl
      · simp only [Turn.perform, Call.request]
        rcases valid : amountToU64 amount with error | units
        · rw [sendMicropayment_of_error valid]
          rfl
        · rw [sendMicropayment_of_ok valid]
          rfl
  | closeChannel channel =>
      simp only [Turn.perform, Call.request, closeChannel_eq]
      rfl

end

end TenzroEdge.WorkSettlement
