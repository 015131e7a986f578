import TenzroEdge.Client
import TenzroEdge.Interaction.Basic

/-!
# Storing blobs

`put` reads a stream of chunks to its end and publishes what it has read as one blob;
`get` serves a blob as a stream of one chunk, and `head` fetches it to find out its size
and its digest. A stream is the list of what reading it yields: chunks, or the text of an
error.
-/

namespace TenzroEdge.Storage

open Codec Interaction Interaction.Prog

inductive StorageError where
  | transient (message : String)
  | notFound (message : String)
  | unauthorised
  | failed (message : String)
deriving DecidableEq

structure BlobKey where
  uri : String
deriving DecidableEq

structure BlobMetadata where
  key : BlobKey
  size : UInt64
  digestBlake3 : Octets 32
deriving DecidableEq

abbrev ByteStream := List (Except String Bytes)

/-! ## The SDK -/

/-- What the SDK returns for a blob that it has published. -/
structure PublishResult where
  tenzroUri : String
  blake3Hex : String
  sizeBytes : UInt64

inductive Cmd where
  | publishBlob (bytes : Bytes)
  | fetchBlob (uri : String)
deriving DecidableEq

def iroh : Interface where
  Cmd := Cmd
  Reply
    | .publishBlob _ => Except SdkError PublishResult
    | .fetchBlob _ => Except SdkError Bytes

def publishBlob (bytes : Bytes) : Prog iroh (Except SdkError PublishResult) :=
  request (I := iroh) (.publishBlob bytes)

def fetchBlob (uri : String) : Prog iroh (Except SdkError Bytes) :=
  request (I := iroh) (.fetchBlob uri)

def mapSdk (debug : SdkError → String) : SdkError → StorageError
  | .connectionError message => .transient message
  | .rpcError message => .transient message
  | .timeout => .transient "timeout"
  | .notFound message => .notFound message
  | .authenticationError _ => .unauthorised
  | error => .failed (debug error)

/-! ## The backend -/

def hexTo32 (text : String) : Option (Octets 32) := (hexDecode text).bind (Octets.ofBytes? 32)

/-- `u64::try_from` of the length of a sequence, or the largest value. -/
def sizeOf (bytes : Bytes) : UInt64 :=
  if bytes.length < 2 ^ 64 then UInt64.ofNat bytes.length else UInt64.ofNat (2 ^ 64 - 1)

/-- Read a stream to its end, into the buffer. -/
def collect (buf : Bytes) : ByteStream → Except StorageError Bytes
  | [] => .ok buf
  | .error error :: _ => .error (.failed ("read: " ++ error))
  | .ok chunk :: rest => collect (buf ++ chunk) rest

section

variable (debug : SdkError → String)

def put (stream : ByteStream) : ExceptT StorageError (Prog iroh) BlobMetadata := do
  let buf ← ExceptT.mk (.ret (collect [] stream))
  let result ← orFail (mapSdk debug) (publishBlob buf)
  match hexTo32 result.blake3Hex with
  | none => throw (.failed ("bad blake3_hex: " ++ result.blake3Hex))
  | some digestBytes =>
      return { key := ⟨result.tenzroUri⟩, size := result.sizeBytes, digestBlake3 := digestBytes }

def get (key : BlobKey) : ExceptT StorageError (Prog iroh) ByteStream := do
  let bytes ← orFail (mapSdk debug) (fetchBlob key.uri)
  return [.ok bytes]

def head (blake3 : Bytes → Octets 32) (key : BlobKey) :
    ExceptT StorageError (Prog iroh) BlobMetadata := do
  let bytes ← orFail (mapSdk debug) (fetchBlob key.uri)
  return { key, size := sizeOf bytes, digestBlake3 := blake3 bytes }

end

end TenzroEdge.Storage
