import TenzroEdge.Client
import TenzroEdge.Codec.Unsigned
import TenzroEdge.Interaction.Loop

/-!
# Settling work through nanopayment channels

Each operation of `TenzroWorkSettlement` checks its arguments and then makes one
call of the SDK's nanopayment client. The trait hands every payment its
counterparty and its asset again; the SDK call carries neither, since the channel
fixes both.
-/

namespace TenzroEdge.WorkSettlement

open Codec Interaction Interaction.Prog

inductive WorkSettlementError where
  | transient (message : String)
  | refused (message : String)
  | failed (message : String)
deriving DecidableEq

/-- The decimal value of an amount, and the asset it is of. -/
structure Amount where
  value : String
  asset : String

structure ChannelId where
  id : String
deriving DecidableEq

abbrev ReceiptDigest := Octets 32

structure SettlementReceipt where
  txid : String
  channel : Option ChannelId
  forWork : ReceiptDigest

structure TenzroWorkSettlement where
  payer : String

inductive Cmd where
  | openChannel (payer counterparty : String) (deposit : UInt64) (asset : String)
  | sendNanopayment (channelId : String) (amount : UInt64) (memo : String)
  | closeChannel (channelId : String)
deriving DecidableEq

structure ChannelInfo where
  channelId : String

structure PaymentReceipt where
  paymentId : String
  channelId : String

def Answer : Cmd → Type
  | .openChannel _ _ _ _ => ChannelInfo
  | .sendNanopayment _ _ _ => PaymentReceipt
  | .closeChannel _ => Unit

def nanopayment : Interface where
  Cmd := Cmd
  Reply cmd := Except SdkError (Answer cmd)

def issue (cmd : Cmd) : Prog nanopayment (Except SdkError (Answer cmd)) :=
  request (I := nanopayment) cmd

def mapSdk (debug : SdkError → String) : SdkError → WorkSettlementError
  | .connectionError message => .transient message
  | .rpcError message => .transient message
  | .timeout => .transient "timeout"
  | .insufficientFunds required available =>
      .refused ("insufficient funds: required " ++ required ++ ", available " ++ available)
  | .settlementError message => .failed message
  | error => .failed (debug error)

/-- Read the decimal text of an amount as a number of the asset's smallest unit. -/
def amountToU64 (amount : Amount) : Except WorkSettlementError UInt64 :=
  if amount.value.toList.contains '.' then
    .error (.refused ("sub-unit amounts not supported by tenzro nanopayment ('" ++ amount.value ++
      "'); pre-convert to smallest unit"))
  else
    match parseUnsigned 64 amount.value with
    | .ok units => .ok (UInt64.ofNat units)
    | .error kind =>
        .error (.refused ("invalid amount '" ++ amount.value ++ "': " ++ kind.display))

section

variable (debug : SdkError → String) (gateway : TenzroWorkSettlement)

/-- The deposit of a channel and its asset; without a deposit the channel is unfunded. -/
def depositOf : Option Amount → Except WorkSettlementError (UInt64 × String)
  | some amount => (amountToU64 amount).map fun units => (units, amount.asset)
  | none => .ok (0, "TZN")

def openChannel (counterparty : String) (deposit : Option Amount) :
    ExceptT WorkSettlementError (Prog nanopayment) ChannelId := do
  let (deposit, asset) ← ExceptT.mk (pure (depositOf deposit))
  let info ← orFail (mapSdk debug) (issue (.openChannel gateway.payer counterparty deposit asset))
  return { id := info.channelId }

def sendMicropayment (channel : Option ChannelId) (_counterparty : String) (amount : Amount)
    (forWork : ReceiptDigest) : ExceptT WorkSettlementError (Prog nanopayment) SettlementReceipt :=
  match channel with
  | none => throw (.refused
      "tenzro nanopayments require a channel — call open_channel first")
  | some channel => do
      let units ← ExceptT.mk (pure (amountToU64 amount))
      let memo := hexEncode forWork.bytes
      let receipt ← orFail (mapSdk debug) (issue (.sendNanopayment channel.id units memo))
      return {
        txid := receipt.paymentId, channel := some { id := receipt.channelId }, forWork }

def closeChannel (channel : ChannelId) : ExceptT WorkSettlementError (Prog nanopayment) Unit := do
  let _ ← orFail (mapSdk debug) (issue (.closeChannel channel.id))
  return ()

end

/-! ## Each operation makes at most one call -/

inductive Call where
  | openChannel (counterparty : String) (deposit : Option Amount)
  | sendMicropayment (channel : Option ChannelId) (counterparty : String) (amount : Amount)
      (forWork : ReceiptDigest)
  | closeChannel (channel : ChannelId)

/-- The request that an operation makes, if its arguments pass the checks. -/
def Call.request (gateway : TenzroWorkSettlement) : Call → Option Cmd
  | .openChannel counterparty deposit =>
      match depositOf deposit with
      | .ok (units, asset) => some (.openChannel gateway.payer counterparty units asset)
      | .error _ => none
  | .sendMicropayment none _ _ _ => none
  | .sendMicropayment (some channel) _ amount forWork =>
      match amountToU64 amount with
      | .ok units => some (.sendNanopayment channel.id units (hexEncode forWork.bytes))
      | .error _ => none
  | .closeChannel channel => some (.closeChannel channel.id)

section

variable {debug : SdkError → String} {gateway : TenzroWorkSettlement} {counterparty : String}
  {deposit : Option Amount} {channel : Option ChannelId} {amount : Amount}
  {forWork : ReceiptDigest}

theorem run_orFail_issue {α : Type} (cmd : Cmd) (finish : Answer cmd → α) :
    (orFail (mapSdk debug) (issue cmd) >>= fun answer => pure (finish answer)).run =
      .call (I := nanopayment) cmd fun (reply : Except SdkError (Answer cmd)) =>
        .ret ((reply.mapError (mapSdk debug)).map finish) := by
  change Prog.call _ _ = _
  congr 1
  funext reply
  rcases reply with error | answer <;> rfl

theorem openChannel_of_error {error : WorkSettlementError}
    (invalid : depositOf deposit = .error error) :
    (openChannel debug gateway counterparty deposit).run = .ret (.error error) := by
  simp only [openChannel, invalid]
  rfl

theorem openChannel_of_ok {units : UInt64} {asset : String}
    (valid : depositOf deposit = .ok (units, asset)) :
    (openChannel debug gateway counterparty deposit).run =
      .call (I := nanopayment) (.openChannel gateway.payer counterparty units asset)
        fun (reply : Except SdkError ChannelInfo) =>
          .ret ((reply.mapError (mapSdk debug)).map fun info => { id := info.channelId }) := by
  simp only [openChannel, valid]
  exact run_orFail_issue (.openChannel gateway.payer counterparty units asset) _

theorem sendMicropayment_of_error {id : ChannelId} {error : WorkSettlementError}
    (invalid : amountToU64 amount = .error error) :
    (sendMicropayment debug (some id) counterparty amount forWork).run = .ret (.error error) := by
  simp only [sendMicropayment, invalid]
  rfl

theorem sendMicropayment_of_ok {id : ChannelId} {units : UInt64}
    (valid : amountToU64 amount = .ok units) :
    (sendMicropayment debug (some id) counterparty amount forWork).run =
      .call (I := nanopayment) (.sendNanopayment id.id units (hexEncode forWork.bytes))
        fun (reply : Except SdkError PaymentReceipt) =>
          .ret ((reply.mapError (mapSdk debug)).map fun receipt => {
            txid := receipt.paymentId, channel := some { id := receipt.channelId }, forWork }) := by
  simp only [sendMicropayment, valid]
  exact run_orFail_issue (.sendNanopayment id.id units (hexEncode forWork.bytes)) _

theorem run_sendMicropayment_of_ok {σ : Type} (serve : Handler nanopayment σ) (world : σ)
    {id : ChannelId} {units : UInt64} (valid : amountToU64 amount = .ok units) :
    run serve (sendMicropayment debug (some id) counterparty amount forWork).run world =
      let cmd : Cmd := .sendNanopayment id.id units (hexEncode forWork.bytes)
      let reply : Except SdkError PaymentReceipt := (serve cmd world).1
      ((reply.mapError (mapSdk debug)).map fun receipt => {
        txid := receipt.paymentId, channel := some { id := receipt.channelId }, forWork },
        (serve cmd world).2) := by
  rw [sendMicropayment_of_ok valid]
  rfl

theorem closeChannel_eq {id : ChannelId} :
    (closeChannel debug id).run =
      .call (I := nanopayment) (.closeChannel id.id)
        fun (reply : Except SdkError Unit) =>
          .ret ((reply.mapError (mapSdk debug)).map fun _ => ()) :=
  run_orFail_issue (.closeChannel id.id) _

/-- The number that reaches the SDK is the one the text denotes. -/
theorem parseUnsigned_of_amountToU64 {units : UInt64} (valid : amountToU64 amount = .ok units) :
    parseUnsigned 64 amount.value = .ok units.toNat := by
  unfold amountToU64 at valid
  split at valid
  · cases valid
  · split at valid
    next number read =>
      cases valid
      rw [read, UInt64.toNat_ofNat_of_lt' (lt_of_parseUnsigned read)]
    next => cases valid

/-- An amount that cannot be read is refused. -/
theorem refused_of_amountToU64 {error : WorkSettlementError}
    (invalid : amountToU64 amount = .error error) : ∃ message, error = .refused message := by
  unfold amountToU64 at invalid
  split at invalid
  · cases invalid
    exact ⟨_, rfl⟩
  · split at invalid
    · cases invalid
    · cases invalid
      exact ⟨_, rfl⟩

end

end TenzroEdge.WorkSettlement
