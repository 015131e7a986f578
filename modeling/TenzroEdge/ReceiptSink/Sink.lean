import TenzroEdge.DpopRpc.Call

/-!
# Writing receipts to a sink

`write` hashes the canonical form of a receipt and has the server sign the digest, by a
call of `tenzro_signMessage`. The reply is decoded for its shape only: a sink hands out
neither the signature nor the key. The serialisation of a receipt and BLAKE3 are functions
of crates outside the repository.
-/

namespace TenzroEdge.ReceiptSink

open Codec Interaction Interaction.Prog

/-- The errors that a write reports. -/
inductive SinkError where
  | transient (message : String)
  | rejected (message : String)
deriving DecidableEq

/-! ## The reply -/

structure SignMessageResult where
  signature : String
  publicKey : String
  algorithm : String

namespace SignMessageResult

/-- A field that is empty when it is absent; when it is there, it has to be a string. -/
def defaulted : Option Json → Option String
  | none => some ""
  | some value => value.asStr

/-- The derived decoder takes an object, or the fields in their order as an array, of which those
with a default may be missing at the end. -/
def ofValue : Json → Option SignMessageResult
  | .object members => do
      let value := Json.object members
      return {
        signature := ← value.getStr? "signature"
        publicKey := ← defaulted (value.get? "public_key")
        algorithm := ← defaulted (value.get? "algorithm") }
  | .array (signature :: rest) =>
      if 2 < rest.length then none
      else do
        return {
          signature := ← signature.asStr
          publicKey := ← defaulted rest[0]?
          algorithm := ← defaulted rest[1]? }
  | _ => none

end SignMessageResult

/-- The texts that crates outside the repository give to what goes wrong with a reply. -/
structure ErrorTexts where
  value : Json → String
  decode : Bytes → String
  status : ℕ → String

def signMessageDecoding (texts : ErrorTexts) : DpopRpc.Decoding SignMessageResult where
  fromValue value :=
    match SignMessageResult.ofValue value with
    | some result => .ok result
    | none => .error (texts.value value)
  decodeError := texts.decode
  statusText := texts.status

/-! ## The sink -/

structure TenzroReceiptSink (ed25519 : Auth.Ed25519) (sha256 : Bytes → Octets 32) where
  id : String
  rpc : DpopRpc ed25519 sha256

section

variable {ed25519 : Auth.Ed25519} {sha256 : Bytes → Octets 32}

def messageParams (messageHex : String) : Json :=
  .array [.ofMembers [("message_hex", .string messageHex)]]

variable {Receipt : Type} (texts : ErrorTexts) (serialise : Receipt → Except String Bytes)
  (blake3 : Bytes → Octets 32) (sink : TenzroReceiptSink ed25519 sha256)

def write (receipt : Receipt) : ExceptT SinkError (Prog DpopRpc.io) Unit := do
  let canon ← ExceptT.mk (.ret ((serialise receipt).mapError fun error =>
    .rejected ("canonicalise receipt: " ++ error)))
  let messageHex := hexEncode (blake3 canon).bytes
  let _signed ← orFail (fun error => .transient ("tenzro_signMessage: " ++ error.display))
    (sink.rpc.call (signMessageDecoding texts) "tenzro_signMessage" (messageParams messageHex)).run
  return ()

/-- A write is over when its call is, so that there is nothing to flush. -/
def flush (_sink : TenzroReceiptSink ed25519 sha256) :
    ExceptT SinkError (Prog DpopRpc.io) Unit := return ()

end

end TenzroEdge.ReceiptSink
