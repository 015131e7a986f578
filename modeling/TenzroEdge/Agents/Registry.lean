import TenzroEdge.Client
import TenzroEdge.Codec.JsonText
import TenzroEdge.DpopRpc.Call

/-!
# Looking up agents

The registry lists the agents of the network, searches for skills and resolves identities, and
turns what the SDK returns into descriptors. What a descriptor has no field for is put under
`metadata`, the field `meta` of the source; a text that is empty is left out there. Nothing is
lost: the entries of the SDK can be read off the descriptors.
-/

namespace TenzroEdge.Agents

open Codec Interaction Interaction.Prog

inductive AgentRegistryError where
  | transient (message : String)
  | lookup (message : String)
deriving DecidableEq

structure AgentDid where
  did : String
deriving DecidableEq

structure AgentDescriptor where
  did : AgentDid
  name : String
  skills : List String
  endpoint : Option String
  metadata : JsonMap

/-! ## The SDK -/

structure AgentIdentity where
  agentId : String
  name : String
  version : String
  address : Json
  creator : Json

structure SkillInfo where
  skillId : String
  name : String
  version : String
  description : String
  creatorDid : String
  tags : List String
deriving DecidableEq

structure IdentityInfo where
  did : String
  displayName : String
  status : String
  isHuman : Bool
  isMachine : Bool
  keyCount : UInt64
deriving DecidableEq

inductive RegistryCmd where
  | listAgents
  | search (query : String)
  | resolve (did : String)

def registry : Interface where
  Cmd := RegistryCmd
  Reply
    | .listAgents => Except SdkError (List AgentIdentity)
    | .search _ => Except SdkError (List SkillInfo)
    | .resolve _ => Except SdkError IdentityInfo

def listAgents : Prog registry (Except SdkError (List AgentIdentity)) :=
  request (I := registry) .listAgents

def searchSkills (query : String) : Prog registry (Except SdkError (List SkillInfo)) :=
  request (I := registry) (.search query)

def resolveIdentity (did : String) : Prog registry (Except SdkError IdentityInfo) :=
  request (I := registry) (.resolve did)

namespace Registry

def mapSdk (debug : SdkError → String) : SdkError → AgentRegistryError
  | .connectionError message => .transient message
  | .rpcError message => .transient message
  | .timeout => .transient "timeout"
  | error => .lookup (debug error)

def jsonToDid (value : Json) : String :=
  match value.asStr with
  | some text => text
  | none => DpopRpc.jsonText value

/-! ## Descriptors -/

/-- Insert a text, unless it is empty. -/
def insertText (key text : String) (metadata : JsonMap) : JsonMap :=
  if text = "" then metadata else metadata.insert key (.string text)

def descriptorOfAgent (agent : AgentIdentity) : AgentDescriptor where
  did := ⟨agent.agentId⟩
  name := agent.name
  skills := []
  endpoint := none
  metadata := ((insertText "version" agent.version .empty).insert "address" agent.address).insert
    "creator" agent.creator

def descriptorOfSkill (skill : SkillInfo) : AgentDescriptor where
  did := ⟨skill.creatorDid⟩
  name := skill.name
  skills := if skill.name = "" then skill.tags else skill.tags ++ [skill.name]
  endpoint := none
  metadata := insertText "description" skill.description (insertText "version" skill.version
    (JsonMap.empty.insert "skill_id" (.string skill.skillId)))

def descriptorOfIdentity (info : IdentityInfo) : AgentDescriptor where
  did := ⟨jsonToDid (.string info.did)⟩
  name := info.displayName
  skills := []
  endpoint := none
  metadata := (((insertText "status" info.status .empty).insert "is_human"
    (.bool info.isHuman)).insert "is_machine" (.bool info.isMachine)).insert
      "key_count" (.int info.keyCount.toNat)

section

variable (debug : SdkError → String)

def list : ExceptT AgentRegistryError (Prog registry) (List AgentDescriptor) := do
  let agents ← orFail (mapSdk debug) listAgents
  return agents.map descriptorOfAgent

def search (query : String) :
    ExceptT AgentRegistryError (Prog registry) (List AgentDescriptor) := do
  let skills ← orFail (mapSdk debug) (searchSkills query)
  return skills.map descriptorOfSkill

def resolve (did : AgentDid) : ExceptT AgentRegistryError (Prog registry) AgentDescriptor := do
  let info ← orFail (mapSdk debug) (resolveIdentity did.did)
  return descriptorOfIdentity info

end

/-! ## Reading descriptors -/

def textAt (key : String) (metadata : JsonMap) : String :=
  ((metadata.get? key).bind Json.asStr).getD ""

def agentOf (descriptor : AgentDescriptor) : AgentIdentity where
  agentId := descriptor.did.did
  name := descriptor.name
  version := textAt "version" descriptor.metadata
  address := (descriptor.metadata.get? "address").getD .null
  creator := (descriptor.metadata.get? "creator").getD .null

def skillOf (descriptor : AgentDescriptor) : SkillInfo where
  skillId := textAt "skill_id" descriptor.metadata
  name := descriptor.name
  version := textAt "version" descriptor.metadata
  description := textAt "description" descriptor.metadata
  creatorDid := descriptor.did.did
  tags := if descriptor.name = "" then descriptor.skills else descriptor.skills.dropLast

def asBool : Json → Bool
  | .bool value => value
  | _ => false

def asCount : Json → UInt64
  | .int value => UInt64.ofNat value.toNat
  | _ => 0

def identityOf (descriptor : AgentDescriptor) : IdentityInfo where
  did := descriptor.did.did
  displayName := descriptor.name
  status := textAt "status" descriptor.metadata
  isHuman := asBool ((descriptor.metadata.get? "is_human").getD .null)
  isMachine := asBool ((descriptor.metadata.get? "is_machine").getD .null)
  keyCount := asCount ((descriptor.metadata.get? "key_count").getD .null)

section

variable {key other text : String} {value : Json} {metadata : JsonMap}

@[simp]
theorem get?_insertText : (insertText other text metadata).get? key =
    if key = other ∧ text ≠ "" then some (.string text) else metadata.get? key := by
  by_cases empty : text = ""
  · simp [insertText, empty]
  · simp [insertText, empty]

/-- A text that was left out because it is empty reads as the empty text. -/
theorem textAt_insertText (absent : metadata.get? key = none) :
    textAt key (insertText key text metadata) = text := by
  by_cases empty : text = ""
  · simp [textAt, insertText, empty, absent]
  · simp [textAt, insertText, empty]

theorem textAt_insertText_of_ne (distinct : key ≠ other) :
    textAt key (insertText other text metadata) = textAt key metadata := by
  simp [textAt, distinct]

theorem textAt_insert_of_ne (distinct : key ≠ other) :
    textAt key (metadata.insert other value) = textAt key metadata := by
  simp [textAt, distinct]

end

theorem agentOf_descriptor (agent : AgentIdentity) : agentOf (descriptorOfAgent agent) = agent := by
  have version : textAt "version" (descriptorOfAgent agent).metadata = agent.version := by
    rw [descriptorOfAgent, textAt_insert_of_ne (by decide),
      textAt_insert_of_ne (by decide), textAt_insertText rfl]
  rw [agentOf, version]
  simp [descriptorOfAgent]

theorem skillOf_descriptor (skill : SkillInfo) : skillOf (descriptorOfSkill skill) = skill := by
  have skillId : textAt "skill_id" (descriptorOfSkill skill).metadata = skill.skillId := by
    rw [descriptorOfSkill, textAt_insertText_of_ne (by decide),
      textAt_insertText_of_ne (by decide)]
    simp [textAt]
  have version : textAt "version" (descriptorOfSkill skill).metadata = skill.version := by
    rw [descriptorOfSkill, textAt_insertText_of_ne (by decide)]
    apply textAt_insertText
    simp
  have description : textAt "description" (descriptorOfSkill skill).metadata =
      skill.description := by
    apply textAt_insertText
    simp
  rw [skillOf, skillId, version, description]
  by_cases unnamed : skill.name = ""
  · simp only [descriptorOfSkill, if_pos unnamed]
  · simp [descriptorOfSkill, unnamed]

theorem identityOf_descriptor (info : IdentityInfo) :
    identityOf (descriptorOfIdentity info) = info := by
  have status : textAt "status" (descriptorOfIdentity info).metadata = info.status := by
    rw [descriptorOfIdentity, textAt_insert_of_ne (by decide),
      textAt_insert_of_ne (by decide), textAt_insert_of_ne (by decide),
      textAt_insertText rfl]
  rw [identityOf, status]
  simp [descriptorOfIdentity, jsonToDid, asBool, asCount]

/-! ## Nothing is lost -/

/-- What comes back is a value exactly if what was replied is one, and decodes to it. -/
def Recovers {α β δ ε : Type} (decode : β → α) (replied : Except δ α) (returned : Except ε β) :
    Prop :=
  ∀ value, replied = .ok value ↔ ∃ result, returned = .ok result ∧ decode result = value

theorem recovers_of_left_inverse {α β δ ε : Type} {encode : α → β} {decode : β → α}
    {replied : Except δ α} {returned : Except ε β}
    (inverse : ∀ value, decode (encode value) = value)
    (encodes : ∀ result, returned = .ok result ↔
      ∃ value, replied = .ok value ∧ result = encode value) :
    Recovers decode replied returned := by
  intro value
  constructor
  · intro answered
    exact ⟨encode value, (encodes _).mpr ⟨value, answered, rfl⟩, inverse value⟩
  · rintro ⟨result, came, decoded⟩
    rcases (encodes result).mp came with ⟨found, answered, rfl⟩
    rw [← decoded, inverse]
    exact answered

/-- The lists of the registry keep the order and the contents of those of the SDK, and a resolved
identity keeps its fields. -/
theorem registry_lossless (debug : SdkError → String) {σ : Type} (serve : Handler registry σ)
    (state : σ) (query : String) (did : AgentDid) :
    Recovers (List.map agentOf) (run serve listAgents state).1
      (run serve (list debug).run state).1 ∧
    Recovers (List.map skillOf) (run serve (searchSkills query) state).1
      (run serve (search debug query).run state).1 ∧
    Recovers identityOf (run serve (resolveIdentity did.did) state).1
      (run serve (resolve debug did).run state).1 := by
  refine ⟨?_, ?_, ?_⟩
  · apply recovers_of_left_inverse
    · intro agents
      rw [List.map_map]
      exact List.map_id'' agentOf_descriptor agents
    · intro descriptors
      exact run_orFail_bind_pure_eq_ok_iff serve
  · apply recovers_of_left_inverse
    · intro skills
      rw [List.map_map]
      exact List.map_id'' skillOf_descriptor skills
    · intro descriptors
      exact run_orFail_bind_pure_eq_ok_iff serve
  · apply recovers_of_left_inverse identityOf_descriptor
    intro descriptor
    exact run_orFail_bind_pure_eq_ok_iff serve

end Registry

end TenzroEdge.Agents
