import TenzroEdge.Discovery.Poll

/-!
# What an announcement keeps of its provider

A label is a key, an equals sign and a value. The keys contain no equals sign, so the label of
one key is never taken for that of another, whatever the values contain, and the provider can
be read back from the labels and the endpoint of its announcement.
-/

namespace TenzroEdge.Discovery

open Codec

/-! ## Labels -/

/-- The values that the labels give to a key, in order. -/
def valuesOf (key : String) (labels : List String) : List String :=
  labels.filterMap (afterStart (key ++ "="))

section

variable {key other : String}

theorem valuesOf_append (first second : List String) :
    valuesOf key (first ++ second) = valuesOf key first ++ valuesOf key second :=
  List.filterMap_append

/-- The key of a label is what stands before its first equals sign. -/
theorem takeWhile_key {key : List Char} (simple : '=' ∉ key) (rest : List Char) :
    (key ++ '=' :: rest).takeWhile (· ≠ '=') = key := by
  have before : ∀ char ∈ key, decide (char ≠ '=') = true := by
    intro char mem
    exact decide_eq_true fun same => simple (same ▸ mem)
  rw [List.takeWhile_append_of_pos before]
  simp

theorem afterStart_of_ne (simple : '=' ∉ key.toList) (otherSimple : '=' ∉ other.toList)
    (differ : key ≠ other) (text : String) :
    afterStart (key ++ "=") (other ++ "=" ++ text) = none := by
  have noPrefix : startsWith (other ++ "=" ++ text) (key ++ "=") = false := by
    rw [Bool.eq_false_iff]
    intro start
    rcases List.isPrefixOf_iff_prefix.mp start with ⟨rest, whole⟩
    have split : key.toList ++ '=' :: rest = other.toList ++ '=' :: text.toList := by
      simpa using whole
    have same := congrArg (List.takeWhile (· ≠ '=')) split
    rw [takeWhile_key simple, takeWhile_key otherSimple] at same
    exact differ (String.toList_injective same)
  rw [afterStart, noPrefix]
  rfl

theorem valuesOf_label (key text : String) :
    valuesOf key (label key text) = if text = "" then [] else [text] := by
  by_cases empty : text = ""
  · simp [label, valuesOf, empty]
  · simp [label, valuesOf, empty, afterStart_append]

theorem valuesOf_label_of_ne (simple : '=' ∉ key.toList) (otherSimple : '=' ∉ other.toList)
    (differ : key ≠ other) (text : String) : valuesOf key (label other text) = [] := by
  by_cases empty : text = ""
  · simp [label, valuesOf, empty]
  · simp [label, valuesOf, empty, afterStart_of_ne simple otherSimple differ]

theorem valuesOf_map (key : String) (texts : List String) :
    valuesOf key (texts.map (key ++ "=" ++ ·)) = texts := by
  induction texts with
  | nil => rfl
  | cons text rest ih =>
      rw [List.map_cons, valuesOf, List.filterMap_cons, afterStart_append]
      exact congrArg (text :: ·) ih

theorem valuesOf_map_of_ne (simple : '=' ∉ key.toList) (otherSimple : '=' ∉ other.toList)
    (differ : key ≠ other) (texts : List String) :
    valuesOf key (texts.map (other ++ "=" ++ ·)) = [] := by
  induction texts with
  | nil => rfl
  | cons text rest ih =>
      rw [List.map_cons, valuesOf, List.filterMap_cons,
        afterStart_of_ne simple otherSimple differ]
      exact ih

end

/-! ## Announcements -/

/-- The value of a key that has one at most; the empty text stands for none. -/
def valueOf (key : String) (labels : List String) : String := (valuesOf key labels).headD ""

def providerOf (announcement : PeerAnnouncement) : NetworkProvider where
  peerId := valueOf "libp2p" announcement.labels
  providerType := valueOf "type" announcement.labels
  status := valueOf "status" announcement.labels
  capabilities := valuesOf "cap" announcement.labels
  servedModels := valuesOf "model" announcement.labels
  rpcEndpoint := announcement.endpoint.getD ""

theorem headD_label (text : String) : (if text = "" then [] else [text]).headD "" = text := by
  by_cases empty : text = ""
  · simp [empty]
  · simp [empty]

/-- The labels of an announcement are those of its fields, one key for each of them. -/
theorem labels_announcement (blake3 : Bytes → Octets 32) (provider : NetworkProvider) :
    (announcementFromProvider blake3 provider).labels = label "libp2p" provider.peerId ++
      label "type" provider.providerType ++ label "status" provider.status ++
      provider.capabilities.map ("cap" ++ "=" ++ ·) ++
      provider.servedModels.map ("model" ++ "=" ++ ·) := rfl

theorem endpoint_announcement (blake3 : Bytes → Octets 32) (provider : NetworkProvider) :
    (announcementFromProvider blake3 provider).endpoint.getD "" = provider.rpcEndpoint := by
  by_cases empty : provider.rpcEndpoint = ""
  · simp [announcementFromProvider, empty]
  · simp [announcementFromProvider, empty]

/-- The provider is read back from its announcement. -/
theorem providerOf_announcement (blake3 : Bytes → Octets 32) (provider : NetworkProvider) :
    providerOf (announcementFromProvider blake3 provider) = provider := by
  simp (disch := decide) only [providerOf, valueOf, labels_announcement, endpoint_announcement,
    valuesOf_append, valuesOf_label, valuesOf_label_of_ne, valuesOf_map, valuesOf_map_of_ne,
    List.append_nil, List.nil_append, headD_label, -String.reduceAppend]

/-- Announcements with equal labels and endpoints are announcements of one provider. -/
theorem announcement_lossless (blake3 : Bytes → Octets 32) (first second : NetworkProvider) :
    (announcementFromProvider blake3 first).labels =
        (announcementFromProvider blake3 second).labels ∧
      (announcementFromProvider blake3 first).endpoint =
        (announcementFromProvider blake3 second).endpoint ↔
    first.peerId = second.peerId ∧ first.providerType = second.providerType ∧
      first.status = second.status ∧ first.capabilities = second.capabilities ∧
      first.servedModels = second.servedModels ∧ first.rpcEndpoint = second.rpcEndpoint := by
  constructor
  · rintro ⟨labels, endpoint⟩
    have same : first = second := by
      rw [← providerOf_announcement blake3 first, ← providerOf_announcement blake3 second,
        providerOf, providerOf, labels, endpoint]
    rw [same]
    exact ⟨rfl, rfl, rfl, rfl, rfl, rfl⟩
  · rintro ⟨peerId, providerType, status, capabilities, servedModels, rpcEndpoint⟩
    simp only [announcementFromProvider, peerId, providerType, status, capabilities, servedModels,
      rpcEndpoint, and_self]

end TenzroEdge.Discovery
