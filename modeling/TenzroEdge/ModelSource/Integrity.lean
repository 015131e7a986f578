import TenzroEdge.ModelSource.Fetch

/-!
# Content integrity of a fetch

The module documentation of the source promises that the BLAKE3 digest of the
bytes is verified against the URI. The digest is computed, and names the cache
file, but is never compared. `fetch_keepsIntegrity_iff` says exactly for which
URIs and replies the promise holds all the same: when the remote happens to
answer with the content the URI names, and when the fetch stops before it opens
a file.
-/

namespace TenzroEdge.ModelSource

open Codec Interaction Interaction.Prog

variable {debug : SdkError → String} {blake3 : Bytes → Octets 32} {source : TenzroModelSource}
  {uri : String} {event : Surroundings} {ι : Type} {fetcher : ι} {disk : Disk ι}

/-! ## What a fetch does -/

def cachePath (blake3 : Bytes → Octets 32) (source : TenzroModelSource) (bytes : Bytes) : String :=
  join source.cacheDir (hexEncode (blake3 bytes).bytes)

def artefact (blake3 : Bytes → Octets 32) (source : TenzroModelSource) (uri : String)
    (bytes : Bytes) : FetchedArtefact where
  path := cachePath blake3 source bytes
  manifest := {
    name := lastSegment '/' uri, digestBlake3 := blake3 bytes, format := "unknown", extra := [] }

/-- Behind its scheme check a fetch is this program. -/
theorem fetch_of_scheme (scheme : startsWith uri "tenzro://" = true) :
    fetch debug blake3 source uri = (do
      let bytes ← orFail (mapSdk debug) (resolve uri)
      orFail (fun error => .other ("create cache dir: " ++ error))
        (createDirAll source.cacheDir)
      orFail (fun error => .other ("write cache: " ++ error))
        (write (cachePath blake3 source bytes) bytes)
      return artefact blake3 source uri bytes) := by
  simp [fetch, scheme, artefact, cachePath]

theorem run_fetch_of_noScheme (noScheme : startsWith uri "tenzro://" = false) :
    run (serve event fetcher) (fetch debug blake3 source uri).run disk =
      (.error (.unsupportedUri uri), disk) := by
  simp only [fetch, noScheme]
  rfl

theorem run_fetch_of_unresolved {error : SdkError} (scheme : startsWith uri "tenzro://" = true)
    (unresolved : event.resolved = .error error) :
    run (serve event fetcher) (fetch debug blake3 source uri).run disk =
      (.error (mapSdk debug error), disk) := by
  rw [fetch_of_scheme scheme]
  apply run_orFail_bind_of_error
  simp [unresolved]

theorem run_fetch_of_noDir {bytes : Bytes} {error : String}
    (scheme : startsWith uri "tenzro://" = true) (resolved : event.resolved = .ok bytes)
    (noDir : event.dirCreated = .error error) :
    run (serve event fetcher) (fetch debug blake3 source uri).run disk =
      (.error (.other ("create cache dir: " ++ error)), disk) := by
  have resolves : run (serve event fetcher) (resolve uri) disk = (.ok bytes, disk) := by
    simp [resolved]
  rw [fetch_of_scheme scheme, run_orFail_bind_of_ok _ resolves]
  apply run_orFail_bind_of_error
  simp [noDir]

theorem run_fetch_of_dir {bytes : Bytes} (scheme : startsWith uri "tenzro://" = true)
    (resolved : event.resolved = .ok bytes) (dir : event.dirCreated = .ok ()) :
    run (serve event fetcher) (fetch debug blake3 source uri).run disk =
      run (serve event fetcher) (do
        orFail (fun error => .other ("write cache: " ++ error))
          (write (cachePath blake3 source bytes) bytes)
        return artefact blake3 source uri bytes :
          ExceptT ModelSourceError (Prog io) FetchedArtefact).run disk := by
  have resolves : run (serve event fetcher) (resolve uri) disk = (.ok bytes, disk) := by
    simp [resolved]
  have creates : run (serve event fetcher) (createDirAll source.cacheDir) disk =
      (.ok (), disk) := by simp [dir]
  rw [fetch_of_scheme scheme, run_orFail_bind_of_ok _ resolves, run_orFail_bind_of_ok _ creates]

theorem run_write_of_notCreated {path error : String} {bytes : Bytes}
    (notCreated : event.fileCreated = .error error) :
    run (serve event fetcher) (write path bytes) disk = (.error error, disk) := by
  simp [write, run_create, notCreated]

theorem run_write_of_created {path : String} {bytes : Bytes}
    (created : event.fileCreated = .ok ()) :
    run (serve event fetcher) (write path bytes) disk =
      run (serve event fetcher) (writeAll path 0 bytes) (disk.create fetcher path) := by
  simp [write, run_create, created]

theorem opened_run_writeAll (event : Surroundings) (fetcher : ι) (path : String) (offset : ℕ)
    (bytes : Bytes) (disk : Disk ι) :
    (run (serve event fetcher) (writeAll path offset bytes) disk).2.opened = disk.opened := by
  induction bytes generalizing offset disk with
  | nil => rfl
  | cons byte rest ih =>
      cases written : event.byteWritten offset with
      | error error => simp [writeAll, run_writeByte, written]
      | ok _ =>
          simp only [writeAll, run_bind, run_writeByte, written]
          rw [ih]
          rfl

theorem run_fetch_of_notCreated {bytes : Bytes} {error : String}
    (scheme : startsWith uri "tenzro://" = true) (resolved : event.resolved = .ok bytes)
    (dir : event.dirCreated = .ok ()) (notCreated : event.fileCreated = .error error) :
    run (serve event fetcher) (fetch debug blake3 source uri).run disk =
      (.error (.other ("write cache: " ++ error)), disk) := by
  rw [run_fetch_of_dir scheme resolved dir]
  exact run_orFail_bind_of_error _ (run_write_of_notCreated notCreated)

/-- A fetch that comes as far as the file opens it, whatever becomes of the bytes. -/
theorem opened_run_fetch {bytes : Bytes} (scheme : startsWith uri "tenzro://" = true)
    (resolved : event.resolved = .ok bytes) (dir : event.dirCreated = .ok ())
    (created : event.fileCreated = .ok ()) :
    (run (serve event fetcher) (fetch debug blake3 source uri).run disk).2.opened =
      (fetcher, cachePath blake3 source bytes) :: disk.opened := by
  rw [run_fetch_of_dir scheme resolved dir]
  rcases written : run (serve event fetcher) (write (cachePath blake3 source bytes) bytes) disk
    with ⟨result, after⟩
  have opened : after.opened = (fetcher, cachePath blake3 source bytes) :: disk.opened := by
    rw [run_write_of_created created] at written
    have kept := opened_run_writeAll event fetcher (cachePath blake3 source bytes) 0 bytes
      (disk.create fetcher (cachePath blake3 source bytes))
    rw [written] at kept
    exact kept
  rcases result with error | value
  · rw [run_orFail_bind_of_error _ written]
    exact opened
  · rw [run_orFail_bind_of_ok _ written]
    exact opened

/-- The disk does what it is asked to. -/
structure NoDiskError (event : Surroundings) : Prop where
  dirCreated : event.dirCreated = .ok ()
  fileCreated : event.fileCreated = .ok ()
  byteWritten : ∀ offset, event.byteWritten offset = .ok ()

/-- Without a disk error the bytes are appended one by one. -/
theorem run_writeAll_of_noDiskError (noError : NoDiskError event) {path : String}
    {bytes done : Bytes} (content : disk.files path = some done) :
    ∃ after, run (serve event fetcher) (writeAll path done.length bytes) disk = (.ok (), after) ∧
      after.files path = some (done ++ bytes) := by
  induction bytes generalizing done disk with
  | nil => exact ⟨disk, rfl, by simpa using content⟩
  | cons byte rest ih =>
      have grown : (disk.writeByte path done.length byte).files path = some (done ++ [byte]) := by
        simp [Disk.writeByte, content, InPlace.writeAt]
      rcases ih grown with ⟨after, written, complete⟩
      refine ⟨after, ?_, by simpa using complete⟩
      rw [List.length_append] at written
      simpa [writeAll, run_writeByte, noError.byteWritten] using written

/-- Without a disk error, a fetch whose URI is resolved leaves the bytes in the cache. -/
theorem run_fetch_of_noDiskError {bytes : Bytes} (noError : NoDiskError event)
    (scheme : startsWith uri "tenzro://" = true) (resolved : event.resolved = .ok bytes) :
    ∃ after, run (serve event fetcher) (fetch debug blake3 source uri).run disk =
        (.ok (artefact blake3 source uri bytes), after) ∧
      after.files (cachePath blake3 source bytes) = some bytes := by
  have opened : (disk.create fetcher (cachePath blake3 source bytes)).files
      (cachePath blake3 source bytes) = some [] := by simp [Disk.create]
  rcases run_writeAll_of_noDiskError noError opened with ⟨after, written, complete⟩
  refine ⟨after, ?_, complete⟩
  rw [run_fetch_of_dir scheme resolved noError.dirCreated]
  apply run_orFail_bind_of_ok
  rw [run_write_of_created noError.fileCreated]
  exact written

/-! ## When the bytes are those the URI names -/

/-- The digest named by a URI of the documented shape. -/
def namedDigest (uri : String) : Option (Octets 32) :=
  (afterStart "tenzro://blob/" uri <|> afterStart "tenzro://model/" uri).bind fun digits =>
    (hexDecode digits).bind (Octets.ofBytes? 32)

/-- The remote replied with the content the URI names. -/
def Authentic (blake3 : Bytes → Octets 32) (uri : String) (reply : Except SdkError Bytes) : Prop :=
  ∃ bytes, reply = .ok bytes ∧ namedDigest uri = some (blake3 bytes)

/-- The fetch ends before it opens a file. -/
inductive StoppedEarly (uri : String) (event : Surroundings) : Prop where
  | scheme (noScheme : startsWith uri "tenzro://" = false)
  | resolve {error : SdkError} (unresolved : event.resolved = .error error)
  | createDir {error : String} (noDir : event.dirCreated = .error error)
  | create {error : String} (notCreated : event.fileCreated = .error error)

/-- What the documentation promises of one fetch: only authentic bytes are returned, and anything
else is an error, for which no file has changed and none was even opened for writing. -/
structure KeepsIntegrity (blake3 : Bytes → Octets 32) (uri : String) (event : Surroundings)
    (before : Disk ι) (outcome : Except ModelSourceError FetchedArtefact × Disk ι) : Prop where
  authentic : ∀ fetched, outcome.1 = .ok fetched → Authentic blake3 uri event.resolved
  refused : ¬ Authentic blake3 uri event.resolved →
    (∃ error, outcome.1 = .error error) ∧ outcome.2.files = before.files ∧
      outcome.2.opened = before.opened

/-- A fetch that stops early returns an error and leaves the disk alone. -/
theorem StoppedEarly.run_fetch (stopped : StoppedEarly uri event) :
    ∃ error, run (serve event fetcher) (fetch debug blake3 source uri).run disk =
      (.error error, disk) := by
  cases scheme : startsWith uri "tenzro://" with
  | false => exact ⟨_, run_fetch_of_noScheme scheme⟩
  | true =>
      cases resolved : event.resolved with
      | error error => exact ⟨_, run_fetch_of_unresolved scheme resolved⟩
      | ok bytes =>
          cases dir : event.dirCreated with
          | error error => exact ⟨_, run_fetch_of_noDir scheme resolved dir⟩
          | ok _ =>
              cases created : event.fileCreated with
              | error error => exact ⟨_, run_fetch_of_notCreated scheme resolved dir created⟩
              | ok _ => rcases stopped with none | none | none | none <;> simp_all

/-- A fetch that does not stop early opens a file. -/
theorem opened_run_fetch_ne_of_not_stoppedEarly (goesOn : ¬ StoppedEarly uri event) :
    (run (serve event fetcher) (fetch debug blake3 source uri).run disk).2.opened ≠
      disk.opened := by
  cases scheme : startsWith uri "tenzro://" with
  | false => exact absurd (.scheme scheme) goesOn
  | true =>
      cases resolved : event.resolved with
      | error error => exact absurd (.resolve resolved) goesOn
      | ok bytes =>
          cases dir : event.dirCreated with
          | error error => exact absurd (.createDir dir) goesOn
          | ok _ =>
              cases created : event.fileCreated with
              | error error => exact absurd (.create created) goesOn
              | ok _ =>
                  intro same
                  have opened : (run (serve event fetcher)
                      (fetch debug blake3 source uri).run disk).2.opened = _ :=
                    opened_run_fetch scheme resolved dir created
                  rw [same] at opened
                  exact List.cons_ne_self _ _ opened.symm

/-- The promise is kept exactly when the remote is honest or the fetch stops early. -/
theorem fetch_keepsIntegrity_iff :
    KeepsIntegrity blake3 uri event disk
        (run (serve event fetcher) (fetch debug blake3 source uri).run disk) ↔
      Authentic blake3 uri event.resolved ∨ StoppedEarly uri event := by
  constructor
  · intro keeps
    by_contra neither
    rcases not_or.mp neither with ⟨forged, goesOn⟩
    exact opened_run_fetch_ne_of_not_stoppedEarly goesOn (keeps.refused forged).2.2
  · rintro (honest | stopped)
    · constructor
      · intro fetched returned
        exact honest
      · intro forged
        exact absurd honest forged
    · have failed : ∃ error, run (serve event fetcher) (fetch debug blake3 source uri).run disk =
          (.error error, disk) := stopped.run_fetch
      rcases failed with ⟨error, failed⟩
      rw [failed]
      constructor
      · intro fetched returned
        cases returned
      · intro forged
        exact ⟨⟨error, rfl⟩, rfl, rfl⟩

def digestOfEmpty : Octets 32 where
  bytes := [0xaf, 0x13, 0x49, 0xb9, 0xf5, 0xf9, 0xa1, 0xa6, 0xa0, 0x40, 0x4d, 0xea,
    0x36, 0xdc, 0xc9, 0x49, 0x9b, 0xcb, 0x25, 0xc9, 0xad, 0xc1, 0x12, 0xb7,
    0xcc, 0x9a, 0x93, 0xca, 0xe4, 0x1f, 0x32, 0x62]
  length_bytes := rfl

/-- Nothing goes wrong, and the remote resolves every URI to nothing. -/
def emptyRemote : Surroundings where
  resolved := .ok []
  dirCreated := .ok ()
  fileCreated := .ok ()
  byteWritten _ := .ok ()

/-- A URI that names the digest of zeros is answered by the empty sequence, and accepted. -/
theorem fetch_accepts_forged : ¬ KeepsIntegrity (fun _ => digestOfEmpty)
    ("tenzro://blob/" ++ hexEncode (Octets.replicate 32 0).bytes) emptyRemote
    (⟨fun _ => none, []⟩ : Disk Unit)
    (run (serve emptyRemote ()) (fetch (fun _ => "") (fun _ => digestOfEmpty) ⟨"edge", "/cache"⟩
      ("tenzro://blob/" ++ hexEncode (Octets.replicate 32 0).bytes)).run ⟨fun _ => none, []⟩) := by
  intro keeps
  rcases keeps.authentic _ rfl with ⟨bytes, resolved, named⟩
  change namedDigest _ = some digestOfEmpty at named
  revert named
  decide

end TenzroEdge.ModelSource
