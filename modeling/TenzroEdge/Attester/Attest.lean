import TenzroEdge.Client
import TenzroEdge.Codec.Json
import TenzroEdge.Interaction.Basic

/-!
# Attestations

`TenzroAttester` has the SDK sign a digest and wraps the signature and the public key
that it returns into the proof of an attestation, as a JSON text. `verify` takes both
out of the proof again and has the SDK check them. The serialisation of a receipt and
BLAKE3 are functions of crates outside the repository, like the SDK.
-/

namespace TenzroEdge.Attester

open Codec Interaction Interaction.Prog

inductive AttesterError where
  | transient (message : String)
  | failed (message : String)
  | invalid
deriving DecidableEq

structure Attestation where
  kind : String
  digest : Octets 32
  proof : Bytes
deriving DecidableEq

/-! ## Proofs -/

/-- What the octets in the field `proof` of an attestation stand for. -/
structure TenzroProof where
  signature : String
  publicKey : String
deriving DecidableEq

namespace TenzroProof

/-- The printed form of a proof: printing strings cannot fail. -/
def toVec (proof : TenzroProof) : Bytes :=
  (Json.object [("signature", .string proof.signature),
    ("public_key", .string proof.publicKey)]).print

def string? : RawJson → Option String
  | .string escaped => RawJson.text? escaped
  | _ => none

def setOnce (field : Option String) (value : RawJson) : Option (Option String) :=
  match field with
  | some _ => none
  | none => (string? value).map some

/-- One member of an object: `seen` are the fields that the members before it have set. -/
def addMember (seen : Option String × Option String) (member : Bytes × RawJson) :
    Option (Option String × Option String) := do
  let key ← RawJson.text? member.1
  if key = "signature" then return (← setOnce seen.1 member.2, seen.2)
  else if key = "public_key" then return (seen.1, ← setOnce seen.2 member.2)
  -- the value of any other member is skipped, not decoded
  else return seen

/-- The derived decoder takes an object, or the fields in their order as an array. -/
def ofRaw : RawJson → Option TenzroProof
  | .object members => do
      let (signature, publicKey) ← members.foldlM addMember (none, none)
      return { signature := ← signature, publicKey := ← publicKey }
  | .array [signature, publicKey] => do
      return { signature := ← string? signature, publicKey := ← string? publicKey }
  | _ => none

def fromSlice (bytes : Bytes) : Option TenzroProof := (RawJson.parse bytes).bind ofRaw

end TenzroProof

/-! ## The SDK -/

structure MessageSignature where
  signature : String
  publicKey : String

structure VerifyResult where
  valid : Bool

inductive Cmd where
  | signMessage (privateKeyHex : String) (message : Octets 32)
  | verifySignature (publicKey : String) (message : Octets 32) (signature : String)

def crypto : Interface where
  Cmd := Cmd
  Reply
    | .signMessage _ _ => Except SdkError MessageSignature
    | .verifySignature _ _ _ => Except SdkError VerifyResult

def signMessage (privateKeyHex : String) (message : Octets 32) :
    Prog crypto (Except SdkError MessageSignature) :=
  request (I := crypto) (.signMessage privateKeyHex message)

def verifySignature (publicKey : String) (message : Octets 32) (signature : String) :
    Prog crypto (Except SdkError VerifyResult) :=
  request (I := crypto) (.verifySignature publicKey message signature)

def mapSdk (debug : SdkError → String) : SdkError → AttesterError
  | .connectionError message => .transient message
  | .rpcError message => .transient message
  | .timeout => .transient "timeout"
  | .authenticationError message => .failed ("auth: " ++ message)
  | error => .failed (debug error)

/-! ## The attester -/

structure TenzroAttester where
  id : String
  privateKeyHex : String

namespace TenzroAttester

/-- A new attester takes its key from the variable `TENZRO_SIGNING_KEY`. -/
def new (id : String) (signingKey : Option String) : Except TenzroEdgeError TenzroAttester :=
  match signingKey with
  | some privateKeyHex => .ok { id, privateKeyHex }
  | none => .error (.config "TENZRO_SIGNING_KEY is required for TenzroAttester")

section

variable {Receipt : Type} (debug : SdkError → String) (attester : TenzroAttester)

def signDigest (digest : Octets 32) : ExceptT AttesterError (Prog crypto) Attestation := do
  let sig ← orFail (mapSdk debug) (signMessage attester.privateKeyHex digest)
  let proof : TenzroProof := { signature := sig.signature, publicKey := sig.publicKey }
  return { kind := "tenzro", digest, proof := proof.toVec }

/-- Sign the hash of the serialised receipt. -/
def signReceipt (serialise : Receipt → Except String Bytes) (blake3 : Bytes → Octets 32)
    (receipt : Receipt) : ExceptT AttesterError (Prog crypto) Attestation := do
  let canon ← ExceptT.mk (.ret ((serialise receipt).mapError fun error =>
    .failed ("canonicalise receipt: " ++ error)))
  signDigest debug attester (blake3 canon)

/-- No part of the attester goes into verification. -/
def verify (decodeError : Bytes → String) (_attester : TenzroAttester) (att : Attestation) :
    ExceptT AttesterError (Prog crypto) Unit := do
  if att.kind ≠ "tenzro" then
    throw (.failed ("kind mismatch: expected 'tenzro', got '" ++ att.kind ++ "'"))
  match TenzroProof.fromSlice att.proof with
  | none => throw (.failed ("decode proof: " ++ decodeError att.proof))
  | some proof =>
      let result ← orFail (mapSdk debug)
        (verifySignature proof.publicKey att.digest proof.signature)
      if result.valid then return () else throw .invalid

end

end TenzroAttester

end TenzroEdge.Attester
