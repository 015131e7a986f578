import TenzroEdge.Discovery.Labels
import TenzroEdge.Interaction.Monitor

/-!
# What the streams tell of the directory

Any number of discovery streams poll one directory. Whatever the directory answers and however the
streams are interleaved, the consumer of each of them reads the providers of its own polls back from
the announcements, all of them and in order; a failed poll is the last thing it is told.
-/

namespace TenzroEdge.Discovery

open Codec Interaction Interaction.Prog

/-- What a consumer reads from an item. -/
def readItem (item : Except DiscoveryError PeerAnnouncement) :
    Except DiscoveryError NetworkProvider :=
  item.map providerOf

/-- What a poll gives the stream to tell. -/
def itemsOf (debug : SdkError → String) :
    Except SdkError (List NetworkProvider) → List (Except DiscoveryError NetworkProvider)
  | .ok providers => providers.map .ok
  | .error error => [.error (mapSdk debug error)]

/-- The replies to the polls of a transcript. -/
def polls (transcript : List (Exchange io)) : List (Except SdkError (List NetworkProvider)) :=
  transcript.flatMap fun
    | ⟨.listProviders, reply⟩ => [reply]
    | ⟨.yield _, _⟩ => []
    | ⟨.sleep _, _⟩ => []

/-- What the consumer has read. -/
def told (transcript : List (Exchange io)) : List (Except DiscoveryError NetworkProvider) :=
  transcript.flatMap fun
    | ⟨.listProviders, _⟩ => []
    | ⟨.yield item, _⟩ => [readItem item]
    | ⟨.sleep _, _⟩ => []

/-- Everything that was polled has been told, but for what is about to be. -/
structure Tells (debug : SdkError → String) (transcript : List (Exchange io))
    (left : Prog io StreamState) : Prop where
  complete : ∃ pending, (polls transcript).flatMap (itemsOf debug) = told transcript ++ pending ∧
    (pending = [] ∨ ∃ item next rest, left = .call (.yield item) next ∧
      pending = readItem item :: rest)
  /-- A failed poll is the last one. -/
  last : ∀ earlier error later, polls transcript = earlier ++ .error error :: later → later = []

/-! ## The monitor -/

/-- What a stream has yet to tell, and whether it may poll again. -/
structure Agenda where
  pending : List (Except DiscoveryError NetworkProvider)
  failed : Bool

def idle : Agenda where
  pending := []
  failed := false

def monitor (debug : SdkError → String) : Monitor io Agenda where
  allows
    | agenda, .listProviders => agenda = idle
    | agenda, .yield item => ∃ rest, agenda.pending = readItem item :: rest
    | agenda, .sleep _ => agenda = idle
  after
    | _, .listProviders, reply =>
        ⟨itemsOf debug reply, match (reply : Except SdkError (List NetworkProvider)) with
          | .ok _ => false
          | .error _ => true⟩
    | agenda, .yield _, _ => { agenda with pending := agenda.pending.tail }
    | agenda, .sleep _, _ => agenda

variable {debug : SdkError → String} {blake3 : Bytes → Octets 32}

theorem told_of_accepts {transcript : List (Exchange io)} {before after : Agenda}
    (accepts : (monitor debug).Accepts before transcript after) :
    before.pending ++ (polls transcript).flatMap (itemsOf debug) =
      told transcript ++ after.pending := by
  induction accepts with
  | nil agenda => simp [polls, told]
  | @cons before after cmd rest reply allowed more ih =>
      cases cmd with
      | listProviders =>
          have idled : before = idle := allowed
          change before.pending ++ ((reply : Except SdkError (List NetworkProvider)) ::
            polls rest).flatMap (itemsOf debug) = told rest ++ after.pending
          rw [idled]
          exact ih
      | yield item =>
          rcases allowed with ⟨later, pending⟩
          simpa [polls, told, monitor, pending] using ih
      | sleep duration => simpa [polls, told, monitor] using ih

/-- Behind a failed poll there are no more. -/
theorem polls_of_failed {transcript : List (Exchange io)} {before after : Agenda}
    (accepts : (monitor debug).Accepts before transcript after) (failed : before.failed = true) :
    polls transcript = [] := by
  induction accepts with
  | nil agenda => rfl
  | @cons before after cmd rest reply allowed more ih =>
      cases cmd with
      | listProviders =>
          have idled : before = idle := allowed
          rw [idled] at failed
          cases failed
      | yield item => exact ih failed
      | sleep duration => exact ih failed

theorem last_of_accepts {transcript : List (Exchange io)} {before after : Agenda}
    {earlier later : List (Except SdkError (List NetworkProvider))} {error : SdkError}
    (accepts : (monitor debug).Accepts before transcript after)
    (split : polls transcript = earlier ++ .error error :: later) : later = [] := by
  induction accepts generalizing earlier with
  | nil agenda => simp [polls] at split
  | @cons before after cmd rest reply allowed more ih =>
      cases cmd with
      | listProviders =>
          change (reply : Except SdkError (List NetworkProvider)) :: polls rest = _ at split
          cases earlier with
          | nil =>
              rcases List.cons.inj split with ⟨replied, rfl⟩
              apply polls_of_failed more
              simp only [monitor, replied]
          | cons first earlier => exact ih (List.cons.inj split).2
      | yield item => exact ih split
      | sleep duration => exact ih split

/-! ## The streams follow it -/

theorem follows_yieldAll (providers : List NetworkProvider) {agenda : Agenda}
    (pending : agenda.pending = providers.map .ok) :
    (yieldAll blake3 providers).Follows (monitor debug)
      (fun _ later => later = { agenda with pending := [] }) agenda := by
  induction providers generalizing agenda with
  | nil =>
      rcases agenda with ⟨_, failed⟩
      cases pending
      rfl
  | cons provider rest ih =>
      refine ⟨⟨rest.map .ok, ?_⟩, ?_⟩
      · rw [pending, List.map_cons, readItem, Except.map, providerOf_announcement]
      · intro reply
        have later : agenda.pending.tail = rest.map .ok := by
          rw [pending, List.map_cons, List.tail_cons]
        exact @ih { agenda with pending := agenda.pending.tail } later

theorem follows_poll (interval : ℕ) :
    (poll debug blake3 interval).run.Follows (monitor debug)
      (Finishes (fun _ agenda => agenda = idle)
        fun error agenda => agenda = ⟨[.error error], true⟩) idle := by
  have listed : listProviders.Follows (monitor debug)
      (Finishes (fun providers agenda => agenda = ⟨providers.map .ok, false⟩)
        fun error agenda => agenda = ⟨[.error (mapSdk debug error)], true⟩) idle := by
    refine ⟨rfl, ?_⟩
    intro reply
    cases (reply : Except SdkError (List NetworkProvider)) <;> rfl
  apply listed.orFail.bind_run
  rintro providers agenda rfl
  apply (follows_yieldAll providers rfl).lift.bind_run
  rintro _ agenda rfl
  have slept : (sleep interval).Follows (monitor debug) (fun _ agenda => agenda = idle) idle :=
    ⟨rfl, fun _ => rfl⟩
  apply slept.lift.bind_run
  exact fun _ _ resting => resting

/-- A stream has told everything when it ends. -/
theorem follows_start (rounds : ℕ) (discovery : TenzroDiscovery) :
    (start debug blake3 rounds discovery).Follows (monitor debug)
      (fun _ agenda => agenda.pending = []) idle := by
  have looped : (loop (poll debug blake3 discovery.pollInterval) rounds).run.Follows (monitor debug)
      (Finishes (fun _ agenda => agenda = idle)
        fun error agenda => agenda = ⟨[.error error], true⟩) idle := by
    apply Follows.loop
    · rintro agenda rfl
      exact follows_poll discovery.pollInterval
    · rfl
  apply looped.bind
  rintro result agenda finished
  cases result with
  | ok result =>
      cases finished
      rfl
  | error error =>
      cases finished
      exact ⟨⟨[], rfl⟩, fun _ => rfl⟩

theorem tells_of_leaves {rounds : ℕ} {discovery : TenzroDiscovery}
    {transcript : List (Exchange io)} {left : Prog io StreamState}
    (leaves : (start debug blake3 rounds discovery).Leaves transcript left) :
    Tells debug transcript left := by
  rcases (follows_start rounds discovery).of_leaves leaves with ⟨agenda, accepts, follows⟩
  constructor
  case complete =>
    refine ⟨agenda.pending, told_of_accepts accepts, ?_⟩
    cases left with
    | ret state => exact .inl follows
    | call cmd next =>
        cases cmd with
        | listProviders =>
            have resting : agenda = idle := follows.1
            exact .inl (congrArg Agenda.pending resting)
        | yield item =>
            rcases follows.1 with ⟨rest, pending⟩
            exact .inr ⟨item, next, rest, rfl, pending⟩
        | sleep duration =>
            have resting : agenda = idle := follows.1
            exact .inl (congrArg Agenda.pending resting)
  case last =>
    intro earlier error later split
    exact last_of_accepts accepts split

/-- Whatever the directory answers, each of the streams has told what it polled. -/
theorem streams_tell_directory {ι σ ε : Type} [DecidableEq ι] {directory : ε → ι → Handler io σ}
    {begun pool : Pool io ι (Journaled io ι σ) StreamState} {rounds : ι → ℕ}
    {discovery : ι → TenzroDiscovery} (blank : ∀ i, begun.state.journal i = [])
    (started : ∀ i, begun.progs i = start debug blake3 (rounds i) (discovery i))
    (reached : Pool.Reachable (journaling directory) begun pool) (i : ι) :
    Tells debug (pool.state.journal i) (pool.progs i) := by
  have leaves : (begun.progs i).Leaves (pool.state.journal i) (pool.progs i) :=
    reached.leaves blank i
  rw [started i] at leaves
  exact tells_of_leaves leaves

/-- The directory lists these providers at the moment. -/
def listing (providers : List NetworkProvider) (_ : Bool) : Handler io Unit
  | .listProviders, _ => (.ok providers, ())
  | .yield _, _ => ((), ())
  | .sleep _, _ => ((), ())

def aliceNode : NetworkProvider where
  peerId := "alice"
  providerType := "compute"
  status := "online"
  capabilities := []
  servedModels := []
  rpcEndpoint := ""

def twoStreams : Pool io Bool (Journaled io Bool Unit) StreamState where
  progs _ := start (fun _ => "") (fun _ => Octets.replicate 32 0) 2 .new
  state := ⟨(), fun _ => []⟩

/-- The second stream polls between the poll of the first and its announcement. -/
def twoStreamsAfter : Pool io Bool (Journaled io Bool Unit) StreamState :=
  twoStreams.schedule (journaling listing)
    [([aliceNode], true), ([aliceNode, aliceNode], false), ([], true)]

theorem streams_tell_directory_interleaved :
    Tells (fun _ => "") (twoStreamsAfter.state.journal true) (twoStreamsAfter.progs true) :=
  streams_tell_directory (fun _ => rfl) (fun _ => rfl) (Pool.reachable_schedule _ _) true

end TenzroEdge.Discovery
