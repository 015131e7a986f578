import TenzroEdge.Interaction.History
import TenzroEdge.ModelSource.Integrity

/-!
# Fetching a URI again

The module documentation of the source promises that a second fetch of a URI returns
the cached path without going to the network. A fetch never looks into the cache
directory: whatever the fetches before it have left there, the first thing it does is
to resolve its URI, and it fails when the remote cannot be reached.

A history is the sequence of fetches that one model source serves. Between the
commands of a fetch, and between two fetches, the world may do anything that its
handler and its state allow.
-/

namespace TenzroEdge.ModelSource

open Codec Interaction Interaction.Prog

variable {debug : SdkError → String} {blake3 : Bytes → Octets 32} {source : TenzroModelSource}
  {σ : Type}

abbrev Visit (σ : Type) := Episode io String σ (Except ModelSourceError FetchedArtefact)

section

variable (debug : SdkError → String) (blake3 : Bytes → Octets 32) (source : TenzroModelSource)
  (serve : Handler io σ)

def visit (uri : String) (state : σ) : Visit σ :=
  episode serve (fun uri => (fetch debug blake3 source uri).run) uri state

/-- The fetches of the given URIs, one after the other. -/
def fetches (uris : List String) (state : σ) : List (Visit σ) :=
  history serve (fun uri => (fetch debug blake3 source uri).run) uris state

end

/-- The later fetch of a history is for a URI that an earlier one has returned an artefact for,
and the file is still there. -/
structure Repeats (there : σ → String → Prop) (visits : List (Visit σ)) (fetched : FetchedArtefact)
    (later : Visit σ) : Prop where
  earlier : ∃ past first between future, visits = past ++ first :: (between ++ later :: future) ∧
    first.key = later.key ∧ first.result = .ok fetched
  there : there later.before fetched.path

/-- What the documentation promises of the later fetch. -/
structure Hit (fetched : FetchedArtefact) (later : Visit σ) : Prop where
  returned : ∃ again, later.result = .ok again ∧ again.path = fetched.path ∧
    again.manifest.digestBlake3 = fetched.manifest.digestBlake3
  offline : ∀ uri, .resolve uri ∉ later.issued

section Visit

variable {serve : Handler io σ} {uri : String} {state : σ}

theorem scheme_of_returned {fetched : FetchedArtefact}
    (returned : (visit debug blake3 source serve uri state).result = .ok fetched) :
    startsWith uri "tenzro://" = true := by
  cases scheme : startsWith uri "tenzro://" with
  | true => rfl
  | false =>
      simp only [visit, episode, fetch, scheme] at returned
      cases returned

/-- The first thing a fetch does is to resolve its URI. -/
theorem head?_issued_visit (scheme : startsWith uri "tenzro://" = true) :
    (visit debug blake3 source serve uri state).issued.head? = some (.resolve uri) := by
  simp only [visit, episode, fetch_of_scheme scheme]
  rfl

theorem result_visit_of_unresolved (scheme : startsWith uri "tenzro://" = true) {error : SdkError}
    (unresolved : (run serve (resolve uri) state).1 = .error error) :
    (visit debug blake3 source serve uri state).result = .error (mapSdk debug error) := by
  have failed : run serve (resolve uri) state =
      (.error error, (run serve (resolve uri) state).2) := Prod.ext unresolved rfl
  simp only [visit, episode, fetch_of_scheme scheme]
  rw [run_orFail_bind_of_error serve failed]

end Visit

section History

variable {serve : Handler io σ} {uris : List String} {state : σ} {there : σ → String → Prop}
  {fetched : FetchedArtefact} {later : Visit σ}

theorem Repeats.scheme
    (repeats : Repeats there (fetches debug blake3 source serve uris state) fetched later) :
    startsWith later.key "tenzro://" = true := by
  rcases repeats.earlier with ⟨past, first, between, future, split, same, returned⟩
  have mem : first ∈ fetches debug blake3 source serve uris state := by simp [split]
  rw [eq_episode_of_mem mem] at returned
  rw [← same]
  exact scheme_of_returned returned

theorem Repeats.eq_visit
    (repeats : Repeats there (fetches debug blake3 source serve uris state) fetched later) :
    later = visit debug blake3 source serve later.key later.before := by
  rcases repeats.earlier with ⟨past, first, between, future, split, -, -⟩
  have mem : later ∈ fetches debug blake3 source serve uris state := by simp [split]
  exact eq_episode_of_mem mem

/-- A fetch of a URI that was fetched before goes to the network first, is no hit, and fails when
the remote cannot be reached. -/
theorem fetch_never_hits
    (repeats : Repeats there (fetches debug blake3 source serve uris state) fetched later) :
    ¬ Hit fetched later ∧ later.issued.head? = some (.resolve later.key) ∧
      ∀ error, (run serve (resolve later.key) later.before).1 = .error error →
        later.result = .error (mapSdk debug error) := by
  have first : later.issued.head? = some (.resolve later.key) := by
    rw [repeats.eq_visit]
    exact head?_issued_visit repeats.scheme
  refine ⟨?_, first, ?_⟩
  · intro hit
    exact hit.offline later.key (List.mem_of_mem_head? first)
  · intro error unresolved
    rw [repeats.eq_visit]
    exact result_visit_of_unresolved repeats.scheme unresolved

end History

def emptyUri : String := "tenzro://blob/" ++ hexEncode digestOfEmpty.bytes

/-- The remote can be reached for the first three commands, which are those of one fetch. -/
def thenOffline : Stream' Surroundings := fun served =>
  if served < 3 then emptyRemote
  else { emptyRemote with resolved := .error (.connectionError "offline") }

/-- The blob of no octets is fetched, and then fetched again. -/
def twice : List (Visit (Disk Unit × Stream' Surroundings)) :=
  fetches (fun _ => "") (fun _ => digestOfEmpty) ⟨"edge", "/cache"⟩
    (scripted fun event => serve event ()) [emptyUri, emptyUri] (⟨fun _ => none, []⟩, thenOffline)

def secondVisit : Visit (Disk Unit × Stream' Surroundings) :=
  visit (fun _ => "") (fun _ => digestOfEmpty) ⟨"edge", "/cache"⟩
    (scripted fun event => serve event ()) emptyUri
    ((Disk.mk (fun _ => none) []).create () (cachePath (fun _ => digestOfEmpty) ⟨"edge", "/cache"⟩
      []), thenOffline.drop 3)

theorem repeats_twice : Repeats (fun world path => (world.1.files path).isSome) twice
    (artefact (fun _ => digestOfEmpty) ⟨"edge", "/cache"⟩ emptyUri []) secondVisit := by
  constructor
  · exact ⟨[], _, [], [], rfl, rfl, rfl⟩
  · rfl

theorem fetch_never_hits_twice :
    ¬ Hit (artefact (fun _ => digestOfEmpty) ⟨"edge", "/cache"⟩ emptyUri []) secondVisit :=
  (fetch_never_hits repeats_twice).1

/-- The second fetch fails: by then the remote cannot be reached. -/
theorem second_fetch_fails : ¬ ∀ fetched later,
    Repeats (fun world path => (world.1.files path).isSome) twice fetched later →
      Hit fetched later := by
  intro hits
  rcases (hits _ _ repeats_twice).returned with ⟨again, returned, -⟩
  have failed : secondVisit.result = .error (.transient "offline") := rfl
  rw [failed] at returned
  cases returned

end TenzroEdge.ModelSource
