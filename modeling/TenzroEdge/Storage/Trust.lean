import TenzroEdge.Storage.RoundTrip

/-!
# What the remote is trusted with

Nothing that the remote answers is checked against the bytes. `put` passes on the URI, the
length and the digest of the reply, `get` serves whatever bytes are fetched for the key, and
`head` measures those bytes, not the hash in the key. So what the three operations return is
determined by the replies, and they agree on a blob as far as the replies do.
-/

namespace TenzroEdge.Storage

open Codec Interaction Interaction.Prog

variable {debug : SdkError → String} {blake3 : Bytes → Octets 32} {σ : Type}
  {remote : Handler iroh σ} {state : σ}

/-! ## What is returned -/

/-- The metadata says of a blob what the reply to its publication does. -/
structure Names (result : PublishResult) (metadata : BlobMetadata) : Prop where
  key : metadata.key.uri = result.tenzroUri
  size : metadata.size = result.sizeBytes
  digest : hexTo32 result.blake3Hex = some metadata.digestBlake3

theorem published_eq_ok_iff {reply : Except SdkError PublishResult} {metadata : BlobMetadata} :
    published debug reply = .ok metadata ↔
      ∃ result, reply = .ok result ∧ Names result metadata := by
  cases reply with
  | error error => simp [published]
  | ok result =>
      cases digest : hexTo32 result.blake3Hex with
      | none =>
          constructor
          · intro returned
            simp [published, digest] at returned
          · rintro ⟨_, same, named⟩
            cases same
            rw [named.digest] at digest
            cases digest
      | some digestBytes =>
          constructor
          · intro returned
            simp only [published, digest] at returned
            cases returned
            exact ⟨result, rfl, rfl, rfl, digest⟩
          · rintro ⟨_, same, key, size, named⟩
            cases same
            rw [digest] at named
            cases named
            simp only [published, digest, ← key, ← size]

/-- A stream without a read error is the chunks that are read from it. -/
theorem exists_chunks_or_error (stream : ByteStream) :
    (∃ chunks : List Bytes, stream = chunks.map .ok) ∨ ∃ error, .error error ∈ stream := by
  induction stream with
  | nil => exact .inl ⟨[], rfl⟩
  | cons item rest ih =>
      cases item with
      | error error => exact .inr ⟨error, List.mem_cons_self⟩
      | ok chunk =>
          rcases ih with ⟨chunks, same⟩ | ⟨error, broken⟩
          · exact .inl ⟨chunk :: chunks, by rw [same, List.map_cons]⟩
          · exact .inr ⟨error, List.mem_cons_of_mem _ broken⟩

theorem contents_chunks (chunks : List Bytes) : contents (chunks.map .ok) = .ok chunks.flatten :=
  collect_chunks [] chunks

theorem run_put_eq_ok_iff {stream : ByteStream} {metadata : BlobMetadata} :
    (run remote (put debug stream).run state).1 = .ok metadata ↔
      ∃ content result, contents stream = .ok content ∧
        (run remote (publishBlob content) state).1 = .ok result ∧ Names result metadata := by
  rcases exists_chunks_or_error stream with ⟨chunks, rfl⟩ | ⟨error, broken⟩
  · rw [put_of_chunks, contents_chunks]
    change published debug (run remote (publishBlob chunks.flatten) state).1 = .ok metadata ↔ _
    rw [published_eq_ok_iff]
    constructor
    · rintro ⟨result, replied, named⟩
      exact ⟨chunks.flatten, result, rfl, replied, named⟩
    · rintro ⟨content, result, same, replied, named⟩
      cases same
      exact ⟨result, replied, named⟩
  · have failing : ∃ first, (put debug stream).run = .ret (.error (.failed ("read: " ++ first))) :=
      put_of_error broken
    rcases failing with ⟨first, failed⟩
    rcases collect_of_error [] broken with ⟨message, unread⟩
    constructor
    · intro returned
      rw [failed] at returned
      cases returned
    · rintro ⟨content, result, read, -⟩
      rw [contents, unread] at read
      cases read

theorem run_get_eq_ok_iff {key : BlobKey} {stream : ByteStream} :
    (run remote (get debug key).run state).1 = .ok stream ↔
      ∃ bytes, (run remote (fetchBlob key.uri) state).1 = .ok bytes ∧ stream = [.ok bytes] :=
  run_orFail_bind_pure_eq_ok_iff remote

theorem run_head_eq_ok_iff {key : BlobKey} {metadata : BlobMetadata} :
    (run remote (head debug blake3 key).run state).1 = .ok metadata ↔
      ∃ bytes, (run remote (fetchBlob key.uri) state).1 = .ok bytes ∧
        metadata = ⟨key, sizeOf bytes, blake3 bytes⟩ :=
  run_orFail_bind_pure_eq_ok_iff remote

/-! ## Agreement -/

/-- A blob was stored, read back and described: what was read is what was stored, and what is said
of it, twice, is true. -/
structure Agree (blake3 : Bytes → Octets 32) (stored : ByteStream) (metadata : BlobMetadata)
    (readBack : ByteStream) (described : BlobMetadata) : Prop where
  content : contents readBack = contents stored
  described : described = metadata
  measured : ∃ bytes, contents readBack = .ok bytes ∧
    metadata.size = sizeOf bytes ∧ metadata.digestBlake3 = blake3 bytes

/-- The remote has told the length and the digest of what was stored; it serves those bytes to be
read, and bytes of that length and digest to be measured. -/
structure Consistent (blake3 : Bytes → Octets 32) (remote : Handler iroh σ) (later last : σ)
    (content : Bytes) (metadata : BlobMetadata) : Prop where
  size : metadata.size = sizeOf content
  digest : metadata.digestBlake3 = blake3 content
  read : (run remote (fetchBlob metadata.key.uri) later).1 = .ok content
  measured : ∃ bytes, (run remote (fetchBlob metadata.key.uri) last).1 = .ok bytes ∧
    sizeOf bytes = sizeOf content ∧ blake3 bytes = blake3 content

theorem contents_singleton (bytes : Bytes) : contents [.ok bytes] = .ok bytes := by
  have single : contents ([bytes].map .ok) = .ok [bytes].flatten := contents_chunks [bytes]
  simpa using single

theorem agree_iff_consistent {stored readBack : ByteStream} {metadata described : BlobMetadata}
    {content : Bytes} {later last : σ} (whole : contents stored = .ok content)
    (read : (run remote (get debug metadata.key).run later).1 = .ok readBack)
    (measured : (run remote (head debug blake3 metadata.key).run last).1 = .ok described) :
    Agree blake3 stored metadata readBack described ↔
      Consistent blake3 remote later last content metadata := by
  rcases run_get_eq_ok_iff.mp read with ⟨served, fetched, rfl⟩
  rcases run_head_eq_ok_iff.mp measured with ⟨weighed, fetchedLast, rfl⟩
  constructor
  · rintro ⟨same, described, bytes, serves, size, digest⟩
    rw [whole] at same
    rw [same] at serves
    cases serves
    rw [contents_singleton] at same
    cases same
    refine ⟨size, digest, fetched, weighed, fetchedLast, ?_, ?_⟩
    · rw [← size, ← described]
    · rw [← digest, ← described]
  · rintro ⟨size, digest, serves, bytes, weighs, sameSize, sameDigest⟩
    rw [fetched] at serves
    cases serves
    rw [fetchedLast] at weighs
    cases weighs
    refine ⟨?_, ?_, content, contents_singleton content, size, digest⟩
    · rw [contents_singleton, whole]
    · rw [sameSize, sameDigest, ← size, ← digest]

/-- The three operations return what the remote answers, and they agree on a blob exactly when
its answers are consistent. -/
theorem storage_trusts_remote (debug : SdkError → String) (blake3 : Bytes → Octets 32)
    (remote : Handler iroh σ) :
    (∀ stream state metadata, (run remote (put debug stream).run state).1 = .ok metadata ↔
      ∃ content result, contents stream = .ok content ∧
        (run remote (publishBlob content) state).1 = .ok result ∧ Names result metadata) ∧
    (∀ key state readBack, (run remote (get debug key).run state).1 = .ok readBack ↔
      ∃ bytes, (run remote (fetchBlob key.uri) state).1 = .ok bytes ∧ readBack = [.ok bytes]) ∧
    (∀ key state described, (run remote (head debug blake3 key).run state).1 = .ok described ↔
      ∃ bytes, (run remote (fetchBlob key.uri) state).1 = .ok bytes ∧
        described = ⟨key, sizeOf bytes, blake3 bytes⟩) ∧
    ∀ stream state metadata later readBack last described,
      (run remote (put debug stream).run state).1 = .ok metadata →
      (run remote (get debug metadata.key).run later).1 = .ok readBack →
      (run remote (head debug blake3 metadata.key).run last).1 = .ok described →
        ∃ content, contents stream = .ok content ∧
          (Agree blake3 stream metadata readBack described ↔
            Consistent blake3 remote later last content metadata) := by
  refine ⟨fun _ _ _ => run_put_eq_ok_iff, fun _ _ _ => run_get_eq_ok_iff,
    fun _ _ _ => run_head_eq_ok_iff, ?_⟩
  intro stream state metadata later readBack last described stored read measured
  rcases run_put_eq_ok_iff.mp stored with ⟨content, _, whole, _, _⟩
  exact ⟨content, whole, agree_iff_consistent whole read measured⟩

/-! ## A remote that forges its replies -/

section

variable (debug : SdkError → String) (blake3 : Bytes → Octets 32) (remote : Handler iroh σ)
  (state : σ)

/-- What `put` returns is measured on the stream. -/
def PutVerifies : Prop :=
  ∀ stream metadata, (run remote (put debug stream).run state).1 = .ok metadata →
    ∃ content, contents stream = .ok content ∧ metadata = metadataOf blake3 content

def keyOf (digest : Octets 32) : BlobKey := ⟨"tenzro://blob/" ++ hexEncode digest.bytes⟩

/-- Nothing but bytes with the digest in the key is served. -/
def GetVerifies : Prop :=
  ∀ digest stream, (run remote (get debug (keyOf digest)).run state).1 = .ok stream →
    ∃ bytes, contents stream = .ok bytes ∧ blake3 bytes = digest

def HeadVerifies : Prop :=
  ∀ digest metadata, (run remote (head debug blake3 (keyOf digest)).run state).1 = .ok metadata →
    metadata.digestBlake3 = digest

def AlwaysAgree : Prop :=
  ∀ stream metadata readBack described,
    (run remote (put debug stream).run state).1 = .ok metadata →
    (run remote (get debug metadata.key).run state).1 = .ok readBack →
    (run remote (head debug blake3 metadata.key).run state).1 = .ok described →
      Agree blake3 stream metadata readBack described

end

/-- A remote that takes everything for `abc`, and serves nothing but the empty blob. -/
def forging : Handler iroh Unit
  | .publishBlob _, _ => (.ok {
      tenzroUri := blobUri ModelSource.blake3OfAbc ModelSource.abc
      blake3Hex := hexEncode (ModelSource.blake3OfAbc ModelSource.abc).bytes
      sizeBytes := sizeOf ModelSource.abc }, ())
  | .fetchBlob _, _ => (.ok [], ())

theorem run_put_forging : (run forging (put (fun _ => "") []).run ()).1 =
    .ok (metadataOf ModelSource.blake3OfAbc ModelSource.abc) :=
  run_put_eq_ok_iff.mpr ⟨[], _, rfl, rfl, rfl, rfl, hexTo32_hexEncode _⟩

theorem run_get_forging (key : BlobKey) :
    (run forging (get (fun _ => "") key).run ()).1 = .ok [.ok []] :=
  run_get_eq_ok_iff.mpr ⟨[], rfl, rfl⟩

theorem run_head_forging (key : BlobKey) :
    (run forging (head (fun _ => "") ModelSource.blake3OfAbc key).run ()).1 =
      .ok ⟨key, sizeOf [], ModelSource.blake3OfAbc []⟩ :=
  run_head_eq_ok_iff.mpr ⟨[], rfl, rfl⟩

theorem storage_accepts_forged :
    ¬ PutVerifies (fun _ => "") ModelSource.blake3OfAbc forging () ∧
    ¬ GetVerifies (fun _ => "") ModelSource.blake3OfAbc forging () ∧
    ¬ HeadVerifies (fun _ => "") ModelSource.blake3OfAbc forging () ∧
    ¬ AlwaysAgree (fun _ => "") ModelSource.blake3OfAbc forging () := by
  have differ : ModelSource.blake3OfAbc ModelSource.abc ≠ ModelSource.blake3OfAbc [] := by decide
  refine ⟨?_, ?_, ?_, ?_⟩
  · intro verifies
    rcases verifies [] _ run_put_forging with ⟨content, read, same⟩
    cases read
    exact differ (congrArg BlobMetadata.digestBlake3 same)
  · intro verifies
    rcases verifies (ModelSource.blake3OfAbc ModelSource.abc) _ (run_get_forging _) with
      ⟨bytes, read, same⟩
    cases read
    exact differ same.symm
  · intro verifies
    have same := verifies (ModelSource.blake3OfAbc ModelSource.abc) _ (run_head_forging _)
    exact differ same.symm
  · intro agree
    have same := agree [] _ _ _ run_put_forging (run_get_forging _) (run_head_forging _)
    exact differ (congrArg BlobMetadata.digestBlake3 same.described).symm

end TenzroEdge.Storage
