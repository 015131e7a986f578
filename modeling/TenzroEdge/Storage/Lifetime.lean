import TenzroEdge.Interaction.Loop
import TenzroEdge.Interaction.Once
import TenzroEdge.Outage
import TenzroEdge.Storage.Trust

/-!
# The lifetime of a blob

Any number of storage operations run at the same time, over a network that may lose requests and
replies. The remote is taken to keep what it has published, which the code neither checks nor
endangers: its only commands publish and fetch, and `delete` does not ask the remote at all. Then
what `put` has returned for a blob stays good, and whoever asks for it from then on reads the
blob, or learns that Tenzro is unreachable.
-/

namespace TenzroEdge.Storage

open Codec Interaction Interaction.Prog

/-- Nothing is deleted. -/
def delete (_key : BlobKey) : ExceptT StorageError (Prog iroh) Unit := return ()

inductive Call where
  | put (stream : ByteStream)
  | get (key : BlobKey)
  | head (key : BlobKey)
  | delete (key : BlobKey)

inductive Outcome where
  | stored (result : Except StorageError BlobMetadata)
  | served (result : Except StorageError ByteStream)
  | described (result : Except StorageError BlobMetadata)
  | deleted (result : Except StorageError Unit)

section

variable (debug : SdkError → String) (blake3 : Bytes → Octets 32)

def perform : Call → Prog iroh Outcome
  | .put stream => (put debug stream).run >>= fun result => .ret (.stored result)
  | .get key => (get debug key).run >>= fun result => .ret (.served result)
  | .head key => (head debug blake3 key).run >>= fun result => .ret (.described result)
  | .delete key => (delete key).run >>= fun result => .ret (.deleted result)

end

section

variable {debug : SdkError → String} {blake3 : Bytes → Octets 32}

end

/-! ## A remote behind a network -/

section

variable {ι σ : Type} {remote : Handler iroh σ} {Holds : Bytes → σ → Prop}

/-- No two of the streams that are stored collide. -/
def CollisionFree (blake3 : Bytes → Octets 32) (calls : ι → Call) : Prop :=
  ∀ i j (chunks others : List Bytes), calls i = .put (chunks.map .ok) →
    calls j = .put (others.map .ok) → blake3 others.flatten = blake3 chunks.flatten →
      others.flatten = chunks.flatten

variable {debug : SdkError → String} {blake3 : Bytes → Octets 32}
  {resolve : String → σ → Except SdkError Bytes}

/-- Whoever has asked for the blob has got it, or was told that Tenzro is unreachable; whoever has
deleted it was told of success. -/
structure Reads (bytes : Bytes) (metadata : BlobMetadata) (call : Call) (outcome : Outcome) :
    Prop where
  get : call = .get metadata.key → outcome = .served (.ok [.ok bytes]) ∨
    ∃ outage : Outage, outcome = .served (.error (.transient outage.message))
  head : call = .head metadata.key → outcome = .described (.ok metadata) ∨
    ∃ outage : Outage, outcome = .described (.error (.transient outage.message))
  delete : call = .delete metadata.key → outcome = .deleted (.ok ())

variable {calls : ι → Call} {start pool after : Pool iroh ι (Recorded iroh σ) Outcome}

variable [DecidableEq ι]

end

end TenzroEdge.Storage
