import TenzroEdge.Broker.Replies
import TenzroEdge.Discovery.Poll
import TenzroEdge.ModelSource.Cache

/-!
# Whom a peer identity identifies

Announcements and outcomes of offers name a peer by the digest of its libp2p identity. An
entry of the directory may have no such identity, and a task no agent; an agent that is absent
has an identity of its own, but the empty text is hashed like any other.
-/

namespace TenzroEdge.Discovery

open Codec
open Broker (Script TenzroBroker WorkOffer WorkOutcome TaskInfo FirstTerminal inputOf executorOf
  offered)

/-- No two of the texts have the same digest, and none has the digest that stands for no text. -/
structure CollisionFree (blake3 : Bytes → Octets 32) (texts : Set String) : Prop where
  injective : Set.InjOn (fun text => blake3 (utf8 text)) texts
  preimage : ∀ text ∈ texts, blake3 (utf8 text) ≠ Octets.replicate 32 0

theorem CollisionFree.mono {blake3 : Bytes → Octets 32} {texts others : Set String}
    (collisionFree : CollisionFree blake3 others) (subset : texts ⊆ others) :
    CollisionFree blake3 texts :=
  ⟨collisionFree.injective.mono subset, fun text mem => collisionFree.preimage text (subset mem)⟩

def peerOf (blake3 : Bytes → Octets 32) (provider : NetworkProvider) : PeerId :=
  (announcementFromProvider blake3 provider).peer

/-- The texts that identities are made of: those of the directory and that of the agent. -/
def namesIn (listed : List NetworkProvider) (assignedAgent : Option String) : Set String :=
  { text | assignedAgent = some text ∨ ∃ provider ∈ listed, provider.peerId = text }

/-- A peer identity stands for one libp2p identity, which is not empty. -/
structure Identifies (blake3 : Bytes → Octets 32) (listed : List NetworkProvider)
    (assignedAgent : Option String) (executor : PeerId) : Prop where
  announced : listed.Pairwise fun first second =>
    peerOf blake3 first = peerOf blake3 second → first.peerId = second.peerId ∧ first.peerId ≠ ""
  executed : ∀ provider ∈ listed, executor = peerOf blake3 provider →
    assignedAgent = some provider.peerId ∧ provider.peerId ≠ ""

/-- There is at most one party without a name: an entry of the directory, or the agent. -/
structure Named (listed : List NetworkProvider) (assignedAgent : Option String) : Prop where
  announced : listed.Pairwise fun first second => first.peerId ≠ "" ∨ second.peerId ≠ ""
  executed : assignedAgent = some "" → ∀ provider ∈ listed, provider.peerId ≠ ""

section

variable {debug : SdkError → String} {blake3 : Bytes → Octets 32} {decodeError : String → String}
  {script : Script} {rounds round : ℕ} {broker : TenzroBroker} {work : WorkOffer}
  {info : TaskInfo} {response : Bytes} {executor : PeerId} {listed : List NetworkProvider}
  {assignedAgent : Option String}

theorem executor_of_offered
    (returned : (offered debug blake3 decodeError script rounds broker work).1 =
      .ok (some (.completed response executor)))
    (first : FirstTerminal script (inputOf work) round info) :
    executor = executorOf blake3 info.assignedAgent := by
  rcases Broker.reported_of_offered returned with ⟨taskId, reported⟩
  cases reported with
  | settled other settled =>
      cases settled with
      | completed => rw [other.info_unique first]

theorem peerId_of_peerOf (collisionFree : CollisionFree blake3 (namesIn listed assignedAgent))
    {first second : NetworkProvider} (firstMem : first ∈ listed) (secondMem : second ∈ listed)
    (same : peerOf blake3 first = peerOf blake3 second) : first.peerId = second.peerId :=
  collisionFree.injective (.inr ⟨first, firstMem, rfl⟩) (.inr ⟨second, secondMem, rfl⟩) same

theorem agent_of_peerOf (collisionFree : CollisionFree blake3 (namesIn listed assignedAgent))
    {provider : NetworkProvider} (mem : provider ∈ listed)
    (same : executorOf blake3 assignedAgent = peerOf blake3 provider) :
    assignedAgent = some provider.peerId := by
  cases assignedAgent with
  | none => exact absurd same.symm (collisionFree.preimage _ (.inr ⟨provider, mem, rfl⟩))
  | some agent =>
      exact congrArg some (collisionFree.injective (.inl rfl) (.inr ⟨provider, mem, rfl⟩) same)

theorem named_of_identifies
    (identifies : Identifies blake3 listed assignedAgent (executorOf blake3 assignedAgent)) :
    Named listed assignedAgent := by
  constructor
  case announced =>
    apply identifies.announced.imp
    intro first second apart
    by_contra neither
    rcases not_or.mp neither with ⟨firstEmpty, secondEmpty⟩
    have same : first.peerId = second.peerId :=
      (not_not.mp firstEmpty).trans (not_not.mp secondEmpty).symm
    exact firstEmpty (apart (congrArg (peerIdFromLibp2p blake3) same)).2
  case executed =>
    intro agent provider mem empty
    have same : executorOf blake3 assignedAgent = peerOf blake3 provider := by
      rw [agent]
      exact congrArg (peerIdFromLibp2p blake3) empty.symm
    exact (identifies.executed provider mem same).2 empty

theorem identifies_of_named
    (collisionFree : CollisionFree blake3 (namesIn listed assignedAgent))
    (named : Named listed assignedAgent) :
    Identifies blake3 listed assignedAgent (executorOf blake3 assignedAgent) := by
  constructor
  case announced =>
    apply named.announced.imp_of_mem
    intro first second firstMem secondMem name same
    have text := peerId_of_peerOf collisionFree firstMem secondMem same
    refine ⟨text, ?_⟩
    rcases name with firstNamed | secondNamed
    · exact firstNamed
    · rw [text]
      exact secondNamed
  case executed =>
    intro provider mem same
    have agent := agent_of_peerOf collisionFree mem same
    refine ⟨agent, ?_⟩
    intro empty
    exact named.executed (agent.trans (congrArg some empty)) provider mem empty

/-- The identities in announcements and outcomes identify peers exactly if at most one party has
no name. -/
theorem identifies_iff_named
    (returned : (offered debug blake3 decodeError script rounds broker work).1 =
      .ok (some (.completed response executor)))
    (first : FirstTerminal script (inputOf work) round info)
    (collisionFree : CollisionFree blake3 (namesIn listed info.assignedAgent)) :
    Identifies blake3 listed info.assignedAgent executor ↔ Named listed info.assignedAgent := by
  rw [executor_of_offered returned first]
  constructor
  · exact named_of_identifies
  · exact identifies_of_named collisionFree

end

/-- The first poll finds the task completed by the agent. -/
def completedBy (agent : String) : Script where
  posted := .ok ⟨"task-1"⟩
  clock _ := 0
  reply _ _ := .ok ⟨.string "completed", none, some agent⟩

theorem firstTerminal_completedBy (agent input : String) :
    FirstTerminal (completedBy agent) input 0 ⟨.string "completed", none, some agent⟩ := by
  have completed : Broker.Terminal (.string "completed") := by decide
  exact ⟨rfl, completed, fun _ bound => absurd bound (Nat.not_lt_zero _)⟩

def entry (peerId providerType : String) : NetworkProvider :=
  ⟨peerId, providerType, "", [], [], ""⟩

theorem collisionFree_blake3OfAbc : CollisionFree ModelSource.blake3OfAbc {"abc", ""} := by
  have differ : ModelSource.blake3OfAbc (utf8 "abc") ≠ ModelSource.blake3OfAbc (utf8 "") := by
    decide
  constructor
  case injective =>
    intro first firstMem second secondMem same
    rcases firstMem with rfl | rfl
    · rcases secondMem with rfl | rfl
      · rfl
      · exact absurd same differ
    · rcases secondMem with rfl | rfl
      · exact absurd same.symm differ
      · rfl
  case preimage =>
    intro text mem
    rcases mem with rfl | rfl
    · decide
    · decide

/-- One of two entries has a name, and the agent is the provider of that entry. -/
theorem identifies_abc : Identifies ModelSource.blake3OfAbc
    [entry "abc" "inference", entry "" "storage"] (some "abc") ModelSource.digestOfAbc := by
  have names : namesIn [entry "abc" "inference", entry "" "storage"] (some "abc") ⊆
      {"abc", ""} := by
    rintro text (agent | ⟨provider, mem, rfl⟩)
    · exact .inl (Option.some.inj agent).symm
    · rcases List.mem_pair.mp mem with rfl | rfl
      · exact .inl rfl
      · exact .inr rfl
  have returned : (offered (fun _ => "") ModelSource.blake3OfAbc (fun _ => "") (completedBy "abc") 1
      Broker.hourlyBroker Broker.threeOctets).1 =
        .ok (some (.completed [] ModelSource.digestOfAbc)) := by decide
  have named : Named [entry "abc" "inference", entry "" "storage"] (some "abc") := by
    constructor
    case announced => decide
    case executed => decide
  exact (identifies_iff_named returned (firstTerminal_completedBy _ _)
    (collisionFree_blake3OfAbc.mono names)).mpr named

/-- Two entries without a name are announced as one peer, and so is an agent without a name. -/
theorem unnamed_share_identity :
    (offered (fun _ => "") ModelSource.blake3OfAbc (fun _ => "") (completedBy "") 1
      Broker.hourlyBroker Broker.threeOctets).1 =
        .ok (some (.completed [] ModelSource.digestOfEmpty)) ∧
    ¬ Identifies ModelSource.blake3OfAbc [entry "" "inference", entry "" "storage"] (some "")
      ModelSource.digestOfEmpty ∧
    ¬ Identifies ModelSource.blake3OfAbc [entry "" "inference"] (some "")
      ModelSource.digestOfEmpty := by
  refine ⟨by decide, ?_, ?_⟩
  · intro identifies
    have apart := List.pairwise_pair.mp identifies.announced rfl
    exact apart.2 rfl
  · intro identifies
    exact (identifies.executed _ List.mem_cons_self (by decide)).2 rfl

end TenzroEdge.Discovery
