import TenzroEdge.ModelSource.Cache
import TenzroEdge.Storage.Backend

/-!
# Blobs through a content-addressed remote

A content-addressed remote keeps what is published to it under a URI made of its digest,
and answers with that URI, that digest and the length. The blob that `put` publishes is
the concatenation of its stream, so that the chunking leaves no trace; `get`, `head` and
the fetch of a model all find it, for as long as the remote holds it.
-/

namespace TenzroEdge.Storage

open Codec Interaction Interaction.Prog

variable {debug : SdkError → String} {blake3 : Bytes → Octets 32} {σ : Type}

/-! ## The remote -/

def blobUri (blake3 : Bytes → Octets 32) (bytes : Bytes) : String :=
  "tenzro://blob/" ++ hexEncode (blake3 bytes).bytes

/-- A remote that keeps blobs under their digests; `resolve` is how model sources ask it, and
`Holds` says that a blob is there. -/
structure ContentAddressed (blake3 : Bytes → Octets 32) (remote : Handler iroh σ)
    (resolve : String → σ → Except SdkError Bytes) (Holds : Bytes → σ → Prop) : Prop where
  published : ∀ bytes state, (run remote (publishBlob bytes) state).1 = .ok {
    tenzroUri := blobUri blake3 bytes
    blake3Hex := hexEncode (blake3 bytes).bytes
    sizeBytes := sizeOf bytes }
  stored : ∀ bytes state, Holds bytes (run remote (publishBlob bytes) state).2
  fetched : ∀ bytes state, Holds bytes state →
    (run remote (fetchBlob (blobUri blake3 bytes)) state).1 = .ok bytes
  resolved : ∀ bytes state, Holds bytes state → resolve (blobUri blake3 bytes) state = .ok bytes

/-! ## Streams -/

theorem collect_chunks (buf : Bytes) (chunks : List Bytes) :
    collect buf (chunks.map .ok) = .ok (buf ++ chunks.flatten) := by
  induction chunks generalizing buf with
  | nil => simp [collect]
  | cons chunk rest ih =>
      simp only [List.map_cons, collect, ih, List.flatten_cons, List.append_assoc]

theorem collect_of_error {stream : ByteStream} {error : String} (buf : Bytes)
    (broken : .error error ∈ stream) :
    ∃ first, collect buf stream = .error (.failed ("read: " ++ first)) := by
  induction stream generalizing buf with
  | nil => cases broken
  | cons item rest ih =>
      cases item with
      | error first => exact ⟨first, rfl⟩
      | ok chunk =>
          apply ih
          simpa using broken

/-- What a consumer of a stream reads from it. -/
def contents (stream : ByteStream) : Except StorageError Bytes := collect [] stream

/-! ## The operations -/

def metadataOf (blake3 : Bytes → Octets 32) (bytes : Bytes) : BlobMetadata where
  key := ⟨blobUri blake3 bytes⟩
  size := sizeOf bytes
  digestBlake3 := blake3 bytes

theorem toNat_sizeOf {bytes : Bytes} (fits : bytes.length < 2 ^ 64) :
    (sizeOf bytes).toNat = bytes.length := by
  rw [sizeOf, if_pos fits]
  exact UInt64.toNat_ofNat_of_lt' fits

theorem hexTo32_hexEncode (digest : Octets 32) :
    hexTo32 (hexEncode digest.bytes) = some digest := by
  simp [hexTo32]

theorem put_of_error {stream : ByteStream} {error : String} (broken : .error error ∈ stream) :
    ∃ first, (put debug stream).run = .ret (.error (.failed ("read: " ++ first))) := by
  rcases collect_of_error [] broken with ⟨first, collected⟩
  refine ⟨first, ?_⟩
  simp only [put, collected]
  rfl

def published (debug : SdkError → String) :
    Except SdkError PublishResult → Except StorageError BlobMetadata
  | .error error => .error (mapSdk debug error)
  | .ok result =>
      match hexTo32 result.blake3Hex with
      | none => .error (.failed ("bad blake3_hex: " ++ result.blake3Hex))
      | some digestBytes => .ok {
          key := ⟨result.tenzroUri⟩, size := result.sizeBytes, digestBlake3 := digestBytes }

/-- Without a read error, `put` publishes the concatenation of the chunks, and does nothing else. -/
theorem put_of_chunks (chunks : List Bytes) :
    (put debug (chunks.map .ok)).run =
      .call (I := iroh) (.publishBlob chunks.flatten) fun reply =>
        .ret (published debug reply) := by
  simp only [put, collect_chunks, List.nil_append]
  apply congrArg (Prog.call (I := iroh) (.publishBlob chunks.flatten))
  funext reply
  cases reply with
  | error error => rfl
  | ok result =>
      cases digest : hexTo32 result.blake3Hex with
      | none =>
          simp only [published, digest, Prog.bind, ExceptT.bindCont]
          rfl
      | some digestBytes =>
          simp only [published, digest, Prog.bind, ExceptT.bindCont]
          rfl

section

variable {remote : Handler iroh σ} {resolve : String → σ → Except SdkError Bytes}
  {Holds : Bytes → σ → Prop}

theorem run_put (addressed : ContentAddressed blake3 remote resolve Holds) (chunks : List Bytes)
    (state : σ) : run remote (put debug (chunks.map .ok)).run state =
      (.ok (metadataOf blake3 chunks.flatten),
        (run remote (publishBlob chunks.flatten) state).2) := by
  rw [put_of_chunks]
  apply Prod.ext
  · change published debug (run remote (publishBlob chunks.flatten) state).1 = _
    rw [addressed.published]
    simp only [published, hexTo32_hexEncode]
    rfl
  · rfl

theorem run_get (addressed : ContentAddressed blake3 remote resolve Holds) {bytes : Bytes}
    {state : σ} (held : Holds bytes state) :
    (run remote (get debug ⟨blobUri blake3 bytes⟩).run state).1 = .ok [.ok bytes] := by
  have found : run remote (fetchBlob (blobUri blake3 bytes)) state = (.ok bytes, _) :=
    Prod.ext (addressed.fetched bytes state held) rfl
  simp only [get]
  rw [run_orFail_bind_of_ok remote found]
  rfl

theorem run_head (addressed : ContentAddressed blake3 remote resolve Holds) {bytes : Bytes}
    {state : σ} (held : Holds bytes state) :
    (run remote (head debug blake3 ⟨blobUri blake3 bytes⟩).run state).1 =
      .ok (metadataOf blake3 bytes) := by
  have found : run remote (fetchBlob (blobUri blake3 bytes)) state = (.ok bytes, _) :=
    Prod.ext (addressed.fetched bytes state held) rfl
  simp only [head]
  rw [run_orFail_bind_of_ok remote found]
  rfl

theorem startsWith_blobUri (bytes : Bytes) :
    startsWith (blobUri blake3 bytes) "tenzro://" = true := by
  have scheme : blobUri blake3 bytes =
      "tenzro://" ++ ("blob/" ++ hexEncode (blake3 bytes).bytes) := by
    rw [blobUri, ← String.append_assoc]
    rfl
  rw [scheme]
  exact startsWith_append _ _

end

/-- In a state, a blob is found by its metadata: it is read back by `get`, described by `head` and
fetched as a model. -/
structure Found (debug : SdkError → String) (blake3 : Bytes → Octets 32)
    (remote : Handler iroh σ) (resolve : String → σ → Except SdkError Bytes) (bytes : Bytes)
    (metadata : BlobMetadata) (state : σ) : Prop where
  get : ∃ stream, (run remote (get debug metadata.key).run state).1 = .ok stream ∧
    contents stream = .ok bytes
  head : (run remote (head debug blake3 metadata.key).run state).1 = .ok metadata
  fetch : ∀ (debugModel : SdkError → String) (source : ModelSource.TenzroModelSource) (ι : Type)
    (fetcher : ι) (disk : ModelSource.Disk ι) (event : ModelSource.Surroundings),
    ModelSource.NoDiskError event → event.resolved = resolve metadata.key.uri state →
      ∃ fetched after, run (ModelSource.serve event fetcher)
          (ModelSource.fetch debugModel blake3 source metadata.key.uri).run disk =
            (.ok fetched, after) ∧
        after.files fetched.path = some bytes ∧
        fetched.manifest.digestBlake3 = metadata.digestBlake3

section

variable {remote : Handler iroh σ} {resolve : String → σ → Except SdkError Bytes}
  {Holds : Bytes → σ → Prop}

theorem found_of_holds (addressed : ContentAddressed blake3 remote resolve Holds) {bytes : Bytes}
    {state : σ} (held : Holds bytes state) :
    Found debug blake3 remote resolve bytes (metadataOf blake3 bytes) state := by
  constructor
  case get => exact ⟨[.ok bytes], run_get addressed held, by simp [contents, collect]⟩
  case head => exact run_head addressed held
  case fetch =>
    intro debugModel source ι fetcher disk event noError resolved
    have content : event.resolved = .ok bytes :=
      resolved.trans (addressed.resolved bytes state held)
    rcases ModelSource.run_fetch_of_noDiskError noError (startsWith_blobUri bytes) content with
      ⟨after, fetched, complete⟩
    exact ⟨_, after, fetched, complete, rfl⟩

/-- A stream without a read error is published once, as the concatenation of its chunks, and what
is returned for it depends on nothing else; as long as the remote holds the blob, all readers find
it. A stream with a read error fails, and nothing is published. -/
theorem put_roundTrip (debug : SdkError → String)
    (addressed : ContentAddressed blake3 remote resolve Holds) :
    (∀ (chunks : List Bytes) (state : σ), ∃ metadata after,
      run remote (put debug (chunks.map .ok)).run state = (.ok metadata, after) ∧
        issued remote (put debug (chunks.map .ok)).run state = [.publishBlob chunks.flatten] ∧
        (chunks.flatten.length < 2 ^ 64 → metadata.size.toNat = chunks.flatten.length) ∧
        Holds chunks.flatten after ∧
        (∀ later, Holds chunks.flatten later →
          Found debug blake3 remote resolve chunks.flatten metadata later) ∧
        ∀ (other : List Bytes) (elsewhere : σ), other.flatten = chunks.flatten →
          (run remote (put debug (other.map .ok)).run elsewhere).1 = .ok metadata) ∧
    (∀ (stream : ByteStream) (error : String) (state : σ), .error error ∈ stream →
      (∃ message, run remote (put debug stream).run state = (.error (.failed message), state)) ∧
        issued remote (put debug stream).run state = []) := by
  constructor
  · intro chunks state
    refine ⟨metadataOf blake3 chunks.flatten, _, run_put addressed chunks state, ?_, toNat_sizeOf,
      addressed.stored _ _, fun later held => found_of_holds addressed held, ?_⟩
    · rw [put_of_chunks]
      rfl
    · intro other elsewhere same
      rw [run_put addressed, same]
  · intro stream error state broken
    have failing : ∃ first, (put debug stream).run = .ret (.error (.failed ("read: " ++ first))) :=
      put_of_error broken
    rcases failing with ⟨first, failed⟩
    rw [failed]
    exact ⟨⟨_, rfl⟩, rfl⟩

end

/-! ## A remote that is content-addressed -/

def lookUp (uri : String) (store : String → Option Bytes) : Except SdkError Bytes :=
  match store uri with
  | some bytes => .ok bytes
  | none => .error (.notFound uri)

/-- A remote that keeps what was last published under each URI. -/
def keeping (blake3 : Bytes → Octets 32) : Handler iroh (String → Option Bytes)
  | .publishBlob bytes, store => (.ok {
      tenzroUri := blobUri blake3 bytes
      blake3Hex := hexEncode (blake3 bytes).bytes
      sizeBytes := sizeOf bytes }, Function.update store (blobUri blake3 bytes) (some bytes))
  | .fetchBlob uri, store => (lookUp uri store, store)

theorem contentAddressed_keeping (blake3 : Bytes → Octets 32) :
    ContentAddressed blake3 (keeping blake3) lookUp
      fun bytes store => store (blobUri blake3 bytes) = some bytes := by
  have found : ∀ bytes (store : String → Option Bytes),
      store (blobUri blake3 bytes) = some bytes →
        lookUp (blobUri blake3 bytes) store = .ok bytes := by
    intro bytes store held
    simp only [lookUp, held]
  constructor
  case published => exact fun _ _ => rfl
  case stored => exact fun bytes store => Function.update_self _ _ _
  case fetched => exact found
  case resolved => exact found

theorem put_roundTrip_abc : ∃ metadata after,
    run (keeping ModelSource.blake3OfAbc)
        (put (fun _ => "") ([[97], [], [98, 99]].map .ok)).run (fun _ => none) =
      (.ok metadata, after) ∧
    Found (fun _ => "") ModelSource.blake3OfAbc (keeping ModelSource.blake3OfAbc) lookUp
      ModelSource.abc metadata after := by
  have roundTrip := (put_roundTrip (fun _ => "")
    (contentAddressed_keeping ModelSource.blake3OfAbc)).1 [[97], [], [98, 99]] (fun _ => none)
  rcases roundTrip with ⟨metadata, after, ran, -, -, held, found, -⟩
  exact ⟨metadata, after, ran, found after held⟩

end TenzroEdge.Storage
