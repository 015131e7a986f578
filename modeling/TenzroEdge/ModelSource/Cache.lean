import TenzroEdge.ModelSource.Integrity

/-!
# The cache directory under concurrent fetches

Any number of fetches share one cache directory; a pool interleaves their file
operations in every possible way, and a fetch may stop for ever after any of them.

`Stage` says where a fetch stands, and `Stage.rest` what it has still to do, so that
a fetch in flight is a residual program of `fetch`. `advance_of_step` lists everything
one step of the pool can do to a stage and to the disk; the invariants are derived
from that list alone.

There is no temporary file and no rename, so a file is not complete at every
moment. It is always a partial copy of bytes with the digest it is named after,
and complete whenever the fetch that opened it last has returned an artefact. The
argument needs that no two of the contents in play collide under BLAKE3: a second
fetch of the same file then rewrites every byte with the value it had.
-/

namespace TenzroEdge.ModelSource

open Codec Interaction Interaction.Prog InPlace

variable {debug : SdkError → String} {blake3 : Bytes → Octets 32} {source : TenzroModelSource}
  {uri : String} {ι : Type}

/-! ## The stages of a fetch -/

/-- Where a fetch stands. -/
inductive Stage where
  | asking
  | preparing (bytes : Bytes)
  | opening (bytes : Bytes)
  /-- The bytes before the offset are written; the fetch has finished when all of them are. -/
  | writing (bytes : Bytes) (offset : ℕ)
  | failed (error : ModelSourceError)
  /-- A write failed after the file was opened. -/
  | interrupted (bytes : Bytes) (error : String)

namespace Stage

def start (uri : String) : Stage :=
  if startsWith uri "tenzro://" then .asking else .failed (.unsupportedUri uri)

section

variable (debug blake3 source uri)

def writeRest (bytes : Bytes) (offset : ℕ) :
    ExceptT ModelSourceError (Prog io) FetchedArtefact := do
  orFail (fun error => .other ("write cache: " ++ error))
    (writeAll (cachePath blake3 source bytes) offset (bytes.drop offset))
  return artefact blake3 source uri bytes

def openRest (bytes : Bytes) : ExceptT ModelSourceError (Prog io) FetchedArtefact := do
  orFail (fun error => .other ("write cache: " ++ error))
    (write (cachePath blake3 source bytes) bytes)
  return artefact blake3 source uri bytes

def prepareRest (bytes : Bytes) : ExceptT ModelSourceError (Prog io) FetchedArtefact := do
  orFail (fun error => .other ("create cache dir: " ++ error)) (createDirAll source.cacheDir)
  openRest blake3 source uri bytes

/-- What a fetch at a stage has still to do. -/
def rest : Stage → Prog io (Except ModelSourceError FetchedArtefact)
  | .asking => (orFail (mapSdk debug) (resolve uri) >>= prepareRest blake3 source uri).run
  | .preparing bytes => (prepareRest blake3 source uri bytes).run
  | .opening bytes => (openRest blake3 source uri bytes).run
  | .writing bytes offset => (writeRest blake3 source uri bytes offset).run
  | .failed error => .ret (.error error)
  | .interrupted _ error => .ret (.error (.other ("write cache: " ++ error)))

end

theorem rest_start :
    (start uri).rest debug blake3 source uri = (fetch debug blake3 source uri).run := by
  cases scheme : startsWith uri "tenzro://" with
  | false =>
      simp only [start, fetch, scheme]
      rfl
  | true =>
      rw [fetch_of_scheme scheme, start, if_pos scheme]
      rfl

def received : Stage → Option Bytes
  | .preparing bytes | .opening bytes | .writing bytes _ | .interrupted bytes _ => some bytes
  | .asking | .failed _ => none

def opened : Stage → Option Bytes
  | .writing bytes _ | .interrupted bytes _ => some bytes
  | .asking | .preparing _ | .opening _ | .failed _ => none

end Stage

/-! ## What one step does -/

/-- Answers whose resolved bytes are among the known contents. -/
def Answers (known : Set Bytes) : Type :=
  { event : Surroundings // ∀ bytes, event.resolved = .ok bytes → bytes ∈ known }

def serveKnown {known : Set Bytes} (event : Answers known) (fetcher : ι) : Handler io (Disk ι) :=
  serve event.1 fetcher

/-- The stages and the disk that one operation of a fetch leads to. -/
inductive Advance (debug : SdkError → String) (blake3 : Bytes → Octets 32)
    (source : TenzroModelSource) (known : Set Bytes) (fetcher : ι) (disk : Disk ι) :
    Stage → Stage → Disk ι → Prop
  | resolved {bytes : Bytes} (mem : bytes ∈ known) :
      Advance debug blake3 source known fetcher disk .asking (.preparing bytes) disk
  | unresolved (error : SdkError) :
      Advance debug blake3 source known fetcher disk .asking (.failed (mapSdk debug error)) disk
  | dirCreated (bytes : Bytes) :
      Advance debug blake3 source known fetcher disk (.preparing bytes) (.opening bytes) disk
  | noDir (bytes : Bytes) (error : String) :
      Advance debug blake3 source known fetcher disk (.preparing bytes)
        (.failed (.other ("create cache dir: " ++ error))) disk
  | opened (bytes : Bytes) :
      Advance debug blake3 source known fetcher disk (.opening bytes) (.writing bytes 0)
        (disk.create fetcher (cachePath blake3 source bytes))
  | notOpened (bytes : Bytes) (error : String) :
      Advance debug blake3 source known fetcher disk (.opening bytes)
        (.failed (.other ("write cache: " ++ error))) disk
  | wrote {bytes : Bytes} {offset : ℕ} {byte : UInt8} (wanted : bytes[offset]? = some byte) :
      Advance debug blake3 source known fetcher disk (.writing bytes offset)
        (.writing bytes (offset + 1)) (disk.writeByte (cachePath blake3 source bytes) offset byte)
  | interrupted {bytes : Bytes} {offset : ℕ} {byte : UInt8} (wanted : bytes[offset]? = some byte)
      (error : String) :
      Advance debug blake3 source known fetcher disk (.writing bytes offset)
        (.interrupted bytes error) disk

section Step

variable [DecidableEq ι] {known : Set Bytes} {fetcher : ι}
  {pool after : Pool io ι (Disk ι) (Except ModelSourceError FetchedArtefact)}

theorem rest_writing {bytes : Bytes} {offset : ℕ} {byte : UInt8}
    (wanted : bytes[offset]? = some byte) :
    (Stage.writing bytes offset).rest debug blake3 source uri =
      .call (I := io) (.writeByte (cachePath blake3 source bytes) offset byte)
        fun (reply : Except String Unit) =>
          match reply with
          | .ok _ => (Stage.writing bytes (offset + 1)).rest debug blake3 source uri
          | .error error => (Stage.interrupted bytes error).rest debug blake3 source uri := by
  have within : offset < bytes.length := (List.getElem?_eq_some_iff.mp wanted).1
  have remaining : bytes.drop offset = byte :: bytes.drop (offset + 1) := by
    rw [List.drop_eq_getElem_cons within, (List.getElem?_eq_some_iff.mp wanted).2]
  simp only [Stage.rest, Stage.writeRest, remaining]
  change Prog.call _ _ = _
  congr 1
  funext reply
  rcases reply with error | _ <;> rfl

theorem rest_written {bytes : Bytes} {offset : ℕ} (written : bytes.length ≤ offset) :
    (Stage.writing bytes offset).rest debug blake3 source uri =
      .ret (.ok (artefact blake3 source uri bytes)) := by
  simp only [Stage.rest, Stage.writeRest, List.drop_eq_nil_of_le written]
  rfl

/-- A step of a fetch in flight advances its stage, and does nothing else. -/
theorem advance_of_step {stage : Stage}
    (current : pool.progs fetcher = stage.rest debug blake3 source uri)
    (step : Pool.Step (serveKnown : Answers known → ι → _) fetcher pool after) :
    ∃ later, after.progs = Function.update pool.progs fetcher
        (later.rest debug blake3 source uri) ∧
      Advance debug blake3 source known fetcher pool.state stage later after.state := by
  cases stage with
  | asking =>
      rcases step.of_call (current.trans rfl) with ⟨⟨⟨resolved, _, _, _⟩, mem⟩, rfl⟩
      rcases resolved with error | bytes
      · exact ⟨.failed (mapSdk debug error), rfl, .unresolved error⟩
      · exact ⟨.preparing bytes, rfl, .resolved (mem bytes rfl)⟩
  | preparing bytes =>
      rcases step.of_call (current.trans rfl) with ⟨⟨⟨_, dirCreated, _, _⟩, _⟩, rfl⟩
      rcases dirCreated with error | _
      · exact ⟨.failed (.other ("create cache dir: " ++ error)), rfl, .noDir bytes error⟩
      · exact ⟨.opening bytes, rfl, .dirCreated bytes⟩
  | opening bytes =>
      rcases step.of_call (current.trans rfl) with ⟨⟨⟨_, _, fileCreated, _⟩, _⟩, rfl⟩
      rcases fileCreated with error | _
      · exact ⟨.failed (.other ("write cache: " ++ error)), rfl, .notOpened bytes error⟩
      · exact ⟨.writing bytes 0, rfl, .opened bytes⟩
  | writing bytes offset =>
      cases wanted : bytes[offset]? with
      | none =>
          have written := current.trans (rest_written (List.getElem?_eq_none_iff.mp wanted))
          exact absurd step (Pool.Step.not_of_ret written)
      | some byte =>
          rcases step.of_call (current.trans (rest_writing wanted)) with
            ⟨⟨⟨_, _, _, byteWritten⟩, _⟩, rfl⟩
          simp only [serveKnown, serve]
          rcases byteWritten offset with error | _
          · exact ⟨.interrupted bytes error, rfl, .interrupted wanted error⟩
          · exact ⟨.writing bytes (offset + 1), rfl, .wrote wanted⟩
  | failed error => exact absurd step (Pool.Step.not_of_ret current)
  | interrupted bytes error => exact absurd step (Pool.Step.not_of_ret current)

end Step

/-! ## Names and openings -/

theorem join_injective (dir : String) : Function.Injective (join dir) := by
  intro left right same
  unfold join at same
  split at same
  · simpa using same
  · simpa using same

def digestPath (source : TenzroModelSource) (digest : Octets 32) : String :=
  join source.cacheDir (hexEncode digest.bytes)

theorem digestPath_injective (source : TenzroModelSource) :
    Function.Injective (digestPath source) := by
  intro left right same
  apply Octets.bytes_injective 32
  apply hexEncode_injective
  exact join_injective source.cacheDir same

namespace Disk

variable {disk : Disk ι} {path other : String} {fetcher : ι}

@[simp]
theorem files_create_self : (disk.create fetcher path).files path = some [] := by
  simp [create]

theorem files_create_of_ne (ne : other ≠ path) :
    (disk.create fetcher path).files other = disk.files other := by
  simp [create, ne]

theorem files_writeByte_of_ne {offset : ℕ} {byte : UInt8} (ne : other ≠ path) :
    (disk.writeByte path offset byte).files other = disk.files other := by
  simp [writeByte, ne]

@[simp]
theorem lastOpener_create_self : (disk.create fetcher path).lastOpener path = some fetcher := by
  simp [create, lastOpener]

theorem lastOpener_create_of_ne (ne : other ≠ path) :
    (disk.create fetcher path).lastOpener other = disk.lastOpener other := by
  simp [create, lastOpener, ne.symm]

@[simp]
theorem lastOpener_writeByte {offset : ℕ} {byte : UInt8} :
    (disk.writeByte path offset byte).lastOpener other = disk.lastOpener other := rfl

theorem mem_opened_of_lastOpener (last : disk.lastOpener path = some fetcher) :
    (fetcher, path) ∈ disk.opened := by
  rcases Option.map_eq_some_iff.mp last with ⟨⟨_, opened⟩, found, rfl⟩
  have same : opened = path := by simpa using List.find?_some found
  exact same ▸ List.mem_of_find?_eq_some found

theorem not_mem_opened_of_lastOpener (never : disk.lastOpener path = none) :
    (fetcher, path) ∉ disk.opened := by
  intro mem
  have unfound := Option.map_eq_none_iff.mp never
  simpa using List.find?_eq_none.mp unfound _ mem

end Disk

/-! ## The invariant -/

/-- The stages of all fetches agree with the disk. -/
structure Consistent (blake3 : Bytes → Octets 32) (source : TenzroModelSource) (known : Set Bytes)
    (start : Disk ι) (stages : ι → Stage) (disk : Disk ι) : Prop where
  received : ∀ fetcher bytes, (stages fetcher).received = some bytes → bytes ∈ known
  opened : ∀ fetcher path, (fetcher, path) ∈ disk.opened ↔
    ∃ bytes, (stages fetcher).opened = some bytes ∧ path = cachePath blake3 source bytes
  partialCopy : ∀ digest content, disk.files (digestPath source digest) = some content →
    ∃ bytes ∈ known, blake3 bytes = digest ∧ PartialCopy 0 bytes content
  copied : ∀ fetcher bytes offset, stages fetcher = .writing bytes offset →
    offset ≤ bytes.length ∧
      (disk.lastOpener (cachePath blake3 source bytes) = some fetcher →
        ∃ content, disk.files (cachePath blake3 source bytes) = some content ∧
          CopiedUpTo bytes content offset)
  untouched : ∀ path, (∀ fetcher, (fetcher, path) ∉ disk.opened) →
    disk.files path = start.files path

namespace Consistent

variable [DecidableEq ι] {known : Set Bytes} {start disk : Disk ι} {stages : ι → Stage}
  {fetcher : ι} {later : Stage}

theorem setStage (consistent : Consistent blake3 source known start stages disk)
    (received : ∀ bytes, later.received = some bytes → bytes ∈ known)
    (opened : later.opened = (stages fetcher).opened)
    (idle : ∀ bytes offset, later ≠ .writing bytes offset) :
    Consistent blake3 source known start (Function.update stages fetcher later) disk where
  received other bytes found := by
    by_cases same : other = fetcher
    · subst same
      rw [Function.update_self] at found
      exact received bytes found
    · rw [Function.update_of_ne same] at found
      exact consistent.received other bytes found
  opened other path := by
    by_cases same : other = fetcher
    · subst same
      rw [Function.update_self, opened]
      exact consistent.opened other path
    · rw [Function.update_of_ne same]
      exact consistent.opened other path
  partialCopy := consistent.partialCopy
  copied other bytes offset writing := by
    by_cases same : other = fetcher
    · subst same
      rw [Function.update_self] at writing
      exact absurd writing (idle bytes offset)
    · rw [Function.update_of_ne same] at writing
      exact consistent.copied other bytes offset writing
  untouched := consistent.untouched

/-- A fetch may open its file: an empty file is a partial copy of anything. -/
theorem create {bytes : Bytes} (consistent : Consistent blake3 source known start stages disk)
    (opening : stages fetcher = .opening bytes) :
    Consistent blake3 source known start (Function.update stages fetcher (.writing bytes 0))
      (disk.create fetcher (cachePath blake3 source bytes)) where
  received other bytes' found := by
    by_cases same : other = fetcher
    · subst same
      rw [Function.update_self] at found
      exact consistent.received other bytes' (by rw [opening]; exact found)
    · rw [Function.update_of_ne same] at found
      exact consistent.received other bytes' found
  opened other path := by
    have before := consistent.opened other path
    simp only [Disk.create, List.mem_cons, Prod.mk.injEq, before]
    by_cases same : other = fetcher
    · subst same
      simp [opening, Stage.opened]
    · simp [same]
  partialCopy digest content found := by
    by_cases same : digest = blake3 bytes
    · subst same
      have empty := found
      rw [digestPath, ← cachePath, Disk.files_create_self] at empty
      cases empty
      exact ⟨bytes, consistent.received fetcher bytes (by rw [opening]; rfl), rfl, .nil⟩
    · have other : digestPath source digest ≠ cachePath blake3 source bytes :=
        (digestPath_injective source).ne same
      rw [Disk.files_create_of_ne other] at found
      exact consistent.partialCopy digest content found
  copied other bytes' offset writing := by
    by_cases same : other = fetcher
    · subst same
      rw [Function.update_self] at writing
      cases writing
      exact ⟨Nat.zero_le _, fun _ => ⟨[], Disk.files_create_self, .zero⟩⟩
    · rw [Function.update_of_ne same] at writing
      rcases consistent.copied other bytes' offset writing with ⟨within, copied⟩
      refine ⟨within, fun last => ?_⟩
      by_cases path : cachePath blake3 source bytes' = cachePath blake3 source bytes
      · rw [path, Disk.lastOpener_create_self] at last
        cases last
        exact absurd rfl same
      · rw [Disk.lastOpener_create_of_ne path] at last
        rw [Disk.files_create_of_ne path]
        exact copied last
  untouched path unopened := by
    rw [Disk.files_create_of_ne]
    · exact consistent.untouched path fun other mem =>
        unopened other (List.mem_cons_of_mem _ mem)
    · rintro rfl
      exact unopened fetcher List.mem_cons_self

/-- A fetch may write its next byte: whoever shares the file wants the same byte there. -/
theorem writeByte {bytes : Bytes} {offset : ℕ} {byte : UInt8}
    (collisionFree : Set.InjOn blake3 known)
    (consistent : Consistent blake3 source known start stages disk)
    (writing : stages fetcher = .writing bytes offset) (wanted : bytes[offset]? = some byte) :
    Consistent blake3 source known start
      (Function.update stages fetcher (.writing bytes (offset + 1)))
      (disk.writeByte (cachePath blake3 source bytes) offset byte) := by
  have received : bytes ∈ known := consistent.received fetcher bytes (by rw [writing]; rfl)
  have within : offset < bytes.length := (List.getElem?_eq_some_iff.mp wanted).1
  constructor
  case received =>
    intro other bytes' found
    by_cases same : other = fetcher
    · subst same
      rw [Function.update_self] at found
      exact consistent.received other bytes' (by rw [writing]; exact found)
    · rw [Function.update_of_ne same] at found
      exact consistent.received other bytes' found
  case opened =>
    intro other path
    have before := consistent.opened other path
    by_cases same : other = fetcher
    · subst same
      rw [Function.update_self]
      rw [writing] at before
      exact before
    · rw [Function.update_of_ne same]
      exact before
  case partialCopy =>
    intro digest content found
    by_cases same : digest = blake3 bytes
    · subst same
      refine ⟨bytes, received, rfl, ?_⟩
      have content_eq : writeAt 0 ((disk.files (cachePath blake3 source bytes)).getD []) offset
          byte = content := by
        simpa [Disk.writeByte, digestPath, cachePath] using found
      rw [← content_eq]
      apply PartialCopy.writeAt _ wanted
      cases old : disk.files (cachePath blake3 source bytes) with
      | none => exact .nil
      | some oldContent =>
          rcases consistent.partialCopy (blake3 bytes) oldContent old with
            ⟨bytes', mem, digest, copy⟩
          rw [← collisionFree mem received digest]
          exact copy
    · have other : digestPath source digest ≠ cachePath blake3 source bytes :=
        (digestPath_injective source).ne same
      rw [Disk.files_writeByte_of_ne other] at found
      exact consistent.partialCopy digest content found
  case copied =>
    intro other bytes' offset' writing'
    by_cases same : other = fetcher
    · subst same
      rw [Function.update_self] at writing'
      cases writing'
      refine ⟨within, fun last => ?_⟩
      rcases (consistent.copied other bytes offset writing).2 last with ⟨content, found, copied⟩
      exact ⟨writeAt 0 content offset byte, by simp [Disk.writeByte, found], copied.next wanted⟩
    · rw [Function.update_of_ne same] at writing'
      rcases consistent.copied other bytes' offset' writing' with ⟨within', copied⟩
      refine ⟨within', fun last => ?_⟩
      rcases copied last with ⟨content, found, copied⟩
      by_cases path : cachePath blake3 source bytes' = cachePath blake3 source bytes
      · have received' : bytes' ∈ known :=
          consistent.received other bytes' (by rw [writing']; rfl)
        have equal : bytes' = bytes :=
          collisionFree received' received (digestPath_injective source path)
        subst equal
        refine ⟨writeAt 0 content offset byte, ?_, copied.writeAt within' wanted⟩
        simp [Disk.writeByte, found]
      · exact ⟨content, by rw [Disk.files_writeByte_of_ne path, found], copied⟩
  case untouched =>
    intro path unopened
    rw [Disk.files_writeByte_of_ne]
    · exact consistent.untouched path unopened
    · rintro rfl
      exact unopened fetcher
        ((consistent.opened fetcher _).mpr ⟨bytes, by rw [writing]; rfl, rfl⟩)

/-- Everything a step can do keeps the stages and the disk consistent. -/
theorem advance {after : Disk ι} (collisionFree : Set.InjOn blake3 known)
    (consistent : Consistent blake3 source known start stages disk)
    (advance : Advance debug blake3 source known fetcher disk (stages fetcher) later after) :
    Consistent blake3 source known start (Function.update stages fetcher later) after := by
  generalize current : stages fetcher = stage at advance
  cases advance with
  | resolved mem =>
      apply consistent.setStage _ (by rw [current]; rfl) (by simp)
      intro bytes found
      cases found
      exact mem
  | unresolved error =>
      exact consistent.setStage (by simp [Stage.received]) (by rw [current]; rfl) (by simp)
  | dirCreated bytes =>
      apply consistent.setStage _ (by rw [current]; rfl) (by simp)
      intro bytes' found
      exact consistent.received fetcher bytes' (by rw [current]; exact found)
  | noDir bytes error =>
      exact consistent.setStage (by simp [Stage.received]) (by rw [current]; rfl) (by simp)
  | opened bytes => exact consistent.create current
  | notOpened bytes error =>
      exact consistent.setStage (by simp [Stage.received]) (by rw [current]; rfl) (by simp)
  | wrote wanted => exact consistent.writeByte collisionFree current wanted
  | interrupted wanted error =>
      apply consistent.setStage _ (by rw [current]; rfl) (by simp)
      intro bytes' found
      exact consistent.received fetcher bytes' (by rw [current]; exact found)

omit [DecidableEq ι] in
/-- A step changes only files that its own fetch has opened. -/
theorem opened_of_changed {after : Disk ι} {path : String}
    (consistent : Consistent blake3 source known start stages disk)
    (advance : Advance debug blake3 source known fetcher disk (stages fetcher) later after)
    (changed : after.files path ≠ disk.files path) : (fetcher, path) ∈ after.opened := by
  generalize current : stages fetcher = stage at advance
  cases advance with
  | opened bytes =>
      by_cases same : path = cachePath blake3 source bytes
      · subst same
        exact List.mem_cons_self
      · exact absurd (Disk.files_create_of_ne same) changed
  | @wrote bytes _ _ wanted =>
      by_cases same : path = cachePath blake3 source bytes
      · subst same
        exact (consistent.opened fetcher _).mpr ⟨bytes, by rw [current]; rfl, rfl⟩
      · exact absurd (Disk.files_writeByte_of_ne same) changed
  | _ => exact absurd rfl changed

end Consistent

/-! ## Every interleaving -/

section Run

variable [DecidableEq ι] {known : Set Bytes} {uris : ι → String} {start : Disk ι}
  {pool : Pool io ι (Disk ι) (Except ModelSourceError FetchedArtefact)}

def initial (debug : SdkError → String) (blake3 : Bytes → Octets 32) (source : TenzroModelSource)
    (uris : ι → String) (start : Disk ι) :
    Pool io ι (Disk ι) (Except ModelSourceError FetchedArtefact) where
  progs fetcher := (fetch debug blake3 source (uris fetcher)).run
  state := start

/-- No fetch has opened a file yet, and every file of the cache has the digest it is named
after. -/
structure Clean (blake3 : Bytes → Octets 32) (source : TenzroModelSource) (known : Set Bytes)
    (start : Disk ι) : Prop where
  opened : start.opened = []
  digest : ∀ digest content, start.files (digestPath source digest) = some content →
    content ∈ known ∧ blake3 content = digest

/-- The fetches in flight stand at stages that are consistent with the disk. -/
def InFlight (debug : SdkError → String) (blake3 : Bytes → Octets 32) (source : TenzroModelSource)
    (known : Set Bytes) (uris : ι → String) (start : Disk ι)
    (pool : Pool io ι (Disk ι) (Except ModelSourceError FetchedArtefact)) : Prop :=
  ∃ stages : ι → Stage,
    (∀ fetcher, pool.progs fetcher = (stages fetcher).rest debug blake3 source (uris fetcher)) ∧
      Consistent blake3 source known start stages pool.state

omit [DecidableEq ι] in
theorem inFlight_initial (clean : Clean blake3 source known start) :
    InFlight debug blake3 source known uris start (initial debug blake3 source uris start) := by
  refine ⟨fun fetcher => Stage.start (uris fetcher), fun _ => Stage.rest_start.symm, ?_⟩
  have asleep : ∀ fetcher, (Stage.start (uris fetcher)).received = none ∧
      (Stage.start (uris fetcher)).opened = none := by
    intro fetcher
    unfold Stage.start
    split <;> exact ⟨rfl, rfl⟩
  constructor
  case received =>
    intro fetcher bytes found
    rw [(asleep fetcher).1] at found
    cases found
  case opened =>
    intro fetcher path
    simp [initial, clean.opened, (asleep fetcher).2]
  case partialCopy =>
    intro digest content found
    rcases clean.digest digest content found with ⟨mem, digest_eq⟩
    exact ⟨content, mem, digest_eq, .refl⟩
  case copied =>
    intro fetcher bytes offset writing
    have opened := (asleep fetcher).2
    rw [writing] at opened
    cases opened
  case untouched =>
    intro path never
    rfl

theorem InFlight.step {fetcher : ι}
    {after : Pool io ι (Disk ι) (Except ModelSourceError FetchedArtefact)}
    (collisionFree : Set.InjOn blake3 known)
    (inFlight : InFlight debug blake3 source known uris start pool)
    (step : Pool.Step (serveKnown : Answers known → ι → _) fetcher pool after) :
    InFlight debug blake3 source known uris start after := by
  rcases inFlight with ⟨stages, current, consistent⟩
  rcases advance_of_step (current fetcher) step with ⟨later, progs, advance⟩
  refine ⟨Function.update stages fetcher later, ?_, consistent.advance collisionFree advance⟩
  intro other
  rw [progs]
  by_cases same : other = fetcher
  · subst same
    rw [Function.update_self, Function.update_self]
  · rw [Function.update_of_ne same, Function.update_of_ne same]
    exact current other

/-- A fetch has returned an artefact only behind its last write. -/
theorem rest_eq_ok {stage : Stage} {fetched : FetchedArtefact}
    (returned : stage.rest debug blake3 source uri = .ret (.ok fetched)) :
    ∃ bytes offset, stage = .writing bytes offset ∧ bytes.length ≤ offset ∧
      fetched = artefact blake3 source uri bytes := by
  cases stage with
  | writing bytes offset =>
      cases wanted : bytes[offset]? with
      | none =>
          have written := List.getElem?_eq_none_iff.mp wanted
          rw [rest_written written] at returned
          cases returned
          exact ⟨bytes, offset, rfl, written, rfl⟩
      | some byte =>
          rw [rest_writing wanted] at returned
          cases returned
  | _ => cases returned

/-- A fetch that has failed has opened no file, or its write was interrupted. -/
theorem rest_eq_error {stage : Stage} {error : ModelSourceError}
    (failed : stage.rest debug blake3 source uri = .ret (.error error)) :
    stage.opened = none ∨ ∃ text, error = .other ("write cache: " ++ text) := by
  cases stage with
  | failed error => exact .inl rfl
  | interrupted bytes text =>
      cases failed
      exact .inr ⟨text, rfl⟩
  | writing bytes offset =>
      cases wanted : bytes[offset]? with
      | none =>
          rw [rest_written (List.getElem?_eq_none_iff.mp wanted)] at failed
          cases failed
      | some byte =>
          rw [rest_writing wanted] at failed
          cases failed
  | _ => exact .inl rfl

/-- What holds of the cache directory at every moment. -/
structure CacheInvariant (blake3 : Bytes → Octets 32) (source : TenzroModelSource)
    (known : Set Bytes) (start : Disk ι)
    (pool : Pool io ι (Disk ι) (Except ModelSourceError FetchedArtefact)) : Prop where
  /-- A file holds a partial copy of bytes with the digest it is named after. -/
  partialCopy : ∀ digest content, pool.state.files (digestPath source digest) = some content →
    ∃ bytes ∈ known, blake3 bytes = digest ∧ PartialCopy 0 bytes content
  complete : ∀ fetcher path fetched, pool.state.lastOpener path = some fetcher →
    pool.progs fetcher = .ret (.ok fetched) → fetched.path = path ∧
      ∃ bytes ∈ known, path = digestPath source (blake3 bytes) ∧
        fetched.manifest.digestBlake3 = blake3 bytes ∧ pool.state.files path = some bytes
  untouched : ∀ path, pool.state.lastOpener path = none → pool.state.files path = start.files path
  /-- A fetch that has failed before its write has opened no file. -/
  failed : ∀ fetcher error, pool.progs fetcher = .ret (.error error) →
    (∀ path, (fetcher, path) ∉ pool.state.opened) ∨
      ∃ text, error = .other ("write cache: " ++ text)
  /-- A file handed out keeps its content until another fetch opens it. -/
  kept : ∀ fetcher path fetched later, pool.state.lastOpener path = some fetcher →
    pool.progs fetcher = .ret (.ok fetched) →
    Pool.Reachable (serveKnown : Answers known → ι → _) pool later →
    later.state.lastOpener path = some fetcher → later.state.files path = pool.state.files path
  /-- A step changes only files that its own fetch has opened. -/
  own : ∀ fetcher after path, Pool.Step (serveKnown : Answers known → ι → _) fetcher pool after →
    after.state.files path ≠ pool.state.files path → (fetcher, path) ∈ after.state.opened

omit [DecidableEq ι] in
/-- The file of a returned artefact is complete while nobody else has opened it since. -/
theorem InFlight.complete {fetcher : ι} {path : String} {fetched : FetchedArtefact}
    (collisionFree : Set.InjOn blake3 known)
    (inFlight : InFlight debug blake3 source known uris start pool)
    (last : pool.state.lastOpener path = some fetcher)
    (returned : pool.progs fetcher = .ret (.ok fetched)) :
    fetched.path = path ∧ ∃ bytes ∈ known, path = digestPath source (blake3 bytes) ∧
      fetched.manifest.digestBlake3 = blake3 bytes ∧ pool.state.files path = some bytes := by
  rcases inFlight with ⟨stages, current, consistent⟩
  rcases rest_eq_ok ((current fetcher).symm.trans returned) with
    ⟨bytes, offset, writing, written, rfl⟩
  have received : bytes ∈ known := consistent.received fetcher bytes (by rw [writing]; rfl)
  rcases (consistent.opened fetcher path).mp (Disk.mem_opened_of_lastOpener last) with
    ⟨bytes', opened, rfl⟩
  rw [writing] at opened
  cases opened
  rcases consistent.copied fetcher bytes offset writing with ⟨within, copied⟩
  rcases copied last with ⟨content, found, copied⟩
  have all : offset = bytes.length := le_antisymm within written
  rcases consistent.partialCopy (blake3 bytes) content found with ⟨bytes', mem, digest, copy⟩
  have equal : bytes' = bytes := collisionFree mem received digest
  subst equal all
  refine ⟨rfl, bytes', received, rfl, rfl, ?_⟩
  rw [found, copy.eq_of_copied copied]

theorem InFlight.reachable {after : Pool io ι (Disk ι) (Except ModelSourceError FetchedArtefact)}
    (collisionFree : Set.InjOn blake3 known)
    (inFlight : InFlight debug blake3 source known uris start pool)
    (reached : Pool.Reachable (serveKnown : Answers known → ι → _) pool after) :
    InFlight debug blake3 source known uris start after :=
  reached.invariant inFlight fun before step => before.step collisionFree step

theorem InFlight.cacheInvariant (collisionFree : Set.InjOn blake3 known)
    (inFlight : InFlight debug blake3 source known uris start pool) :
    CacheInvariant blake3 source known start pool := by
  constructor
  case complete =>
    intro fetcher path fetched last returned
    exact inFlight.complete collisionFree last returned
  case kept =>
    intro fetcher path fetched later last returned reached lastLater
    rcases inFlight.complete collisionFree last returned with
      ⟨_, bytes, mem, _, digest, found⟩
    rcases (inFlight.reachable collisionFree reached).complete collisionFree lastLater
      (reached.returned returned) with ⟨_, bytes', mem', _, digest', found'⟩
    rw [found, found', collisionFree mem' mem (digest'.symm.trans digest)]
  all_goals rcases inFlight with ⟨stages, current, consistent⟩
  case partialCopy => exact consistent.partialCopy
  case untouched =>
    intro path never
    exact consistent.untouched path fun _ => Disk.not_mem_opened_of_lastOpener never
  case failed =>
    intro fetcher error failed
    apply (rest_eq_error ((current fetcher).symm.trans failed)).imp_left
    intro closed path mem
    rcases (consistent.opened fetcher path).mp mem with ⟨bytes, opened, _⟩
    rw [closed] at opened
    cases opened
  case own =>
    intro fetcher after path step changed
    rcases advance_of_step (current fetcher) step with ⟨later, _, advance⟩
    exact consistent.opened_of_changed advance changed

/-- Whatever the fetches, the remote's answers, the disk errors and the interleaving, the cache
directory keeps its invariant. -/
theorem fetch_cacheInvariant (collisionFree : Set.InjOn blake3 known)
    (clean : Clean blake3 source known start)
    (reached : Pool.Reachable (serveKnown : Answers known → ι → _)
      (initial debug blake3 source uris start) pool) :
    CacheInvariant blake3 source known start pool :=
  ((inFlight_initial clean).reachable collisionFree reached).cacheInvariant collisionFree

end Run

/-! ## Fetches of three bytes -/

def abc : Bytes := [97, 98, 99]

def digestOfAbc : Octets 32 where
  bytes := [0x64, 0x37, 0xb3, 0xac, 0x38, 0x46, 0x51, 0x33, 0xff, 0xb6, 0x3b, 0x75,
    0x27, 0x3a, 0x8d, 0xb5, 0x48, 0xc5, 0x58, 0x46, 0x5d, 0x79, 0xdb, 0x03,
    0xfd, 0x35, 0x9c, 0x6c, 0xd5, 0xbd, 0x9d, 0x85]
  length_bytes := rfl

def blake3OfAbc (bytes : Bytes) : Octets 32 := if bytes = abc then digestOfAbc else digestOfEmpty

def edge : TenzroModelSource := ⟨"edge", "/cache"⟩

/-- The remote resolves every URI to `abc`, and nothing goes wrong. -/
def abcRemote {known : Set Bytes} (mem : abc ∈ known) : Answers known where
  val := { emptyRemote with resolved := .ok abc }
  property := by
    intro bytes resolved
    cases resolved
    exact mem

def abcFetch : Pool io Unit (Disk Unit) (Except ModelSourceError FetchedArtefact) :=
  initial (fun _ => "") blake3OfAbc edge
    (fun _ => "tenzro://blob/" ++ hexEncode digestOfAbc.bytes) ⟨fun _ => none, []⟩

def abcFetchAfter (operations : ℕ) :
    Pool io Unit (Disk Unit) (Except ModelSourceError FetchedArtefact) :=
  abcFetch.schedule serveKnown
    (List.replicate operations (abcRemote (Set.mem_singleton abc), ()))

/-- A cache directory in which the empty sequence has been stored before. -/
def storedEmpty : Disk (Fin 2) where
  files := Function.update (fun _ => none) (digestPath edge digestOfEmpty) (some [])
  opened := []

def twoFetches : Pool io (Fin 2) (Disk (Fin 2)) (Except ModelSourceError FetchedArtefact) :=
  initial (fun _ => "") blake3OfAbc edge
    (fun _ => "tenzro://blob/" ++ hexEncode digestOfAbc.bytes) storedEmpty

def twoFetchesAfter (fetchers : List (Fin 2)) :
    Pool io (Fin 2) (Disk (Fin 2)) (Except ModelSourceError FetchedArtefact) :=
  twoFetches.schedule serveKnown
    (fetchers.map fun fetcher => (abcRemote (Set.mem_insert abc {[]}), fetcher))

theorem clean_storedEmpty : Clean blake3OfAbc edge {abc, []} storedEmpty where
  opened := rfl
  digest digest content found := by
    by_cases same : digest = digestOfEmpty
    · subst same
      simp only [storedEmpty, Function.update_self] at found
      cases found
      exact ⟨by simp, rfl⟩
    · simp only [storedEmpty, Function.update_of_ne ((digestPath_injective edge).ne same)] at found
      cases found

theorem injOn_blake3OfAbc : Set.InjOn blake3OfAbc {abc, []} := by
  have distinct : digestOfAbc ≠ digestOfEmpty := by decide
  intro first mem second mem' same
  rcases mem with rfl | rfl <;> rcases mem' with rfl | rfl
  · rfl
  · exact absurd same distinct
  · exact absurd same.symm distinct
  · rfl

/-- One fetch has written its file, and the other has truncated it again and written one byte. -/
theorem fetch_cacheInvariant_interleaved : CacheInvariant blake3OfAbc edge {abc, []} storedEmpty
    (twoFetchesAfter [0, 1, 0, 1, 0, 0, 0, 0, 1, 1]) :=
  fetch_cacheInvariant injOn_blake3OfAbc clean_storedEmpty (Pool.reachable_schedule _ _)

/-- Behind the truncation the file named after the digest of `abc` is empty. -/
theorem cache_holds_other_content :
    ¬ ∀ pool, Pool.Reachable (serveKnown : Answers {abc} → Unit → _) abcFetch pool →
      ∀ digest content, pool.state.files (digestPath edge digest) = some content →
        blake3OfAbc content = digest := by
  intro always
  have empty : (abcFetchAfter 3).state.files (digestPath edge digestOfAbc) = some [] :=
    Disk.files_create_self
  have digest := always (abcFetchAfter 3) (Pool.reachable_schedule _ _) digestOfAbc [] empty
  revert digest
  decide

end TenzroEdge.ModelSource
