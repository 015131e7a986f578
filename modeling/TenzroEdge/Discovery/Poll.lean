import TenzroEdge.Client
import TenzroEdge.Interaction.Loop

/-!
# Polling the provider directory

`start` returns a stream: a loop that lists the providers, yields an announcement for each
of them, and sleeps. What the stream macro makes of the loop is a program that yields its
items to the consumer one by one; an error that the loop stops with is yielded as the last
item, and then the stream has ended.

As the loop of the source has no bound of its own, the argument `rounds` bounds it.
-/

namespace TenzroEdge.Discovery

open Codec Interaction Interaction.Prog

inductive DiscoveryError where
  | setup (message : String)
  | terminated (message : String)
deriving DecidableEq

abbrev PeerId := Octets 32

structure NetworkProvider where
  peerId : String
  providerType : String
  status : String
  capabilities : List String
  servedModels : List String
  rpcEndpoint : String

structure PeerAnnouncement where
  peer : PeerId
  endpoint : Option String
  labels : List String
deriving DecidableEq

/-- The interval between two polls, in nanoseconds. -/
structure TenzroDiscovery where
  pollInterval : ℕ

namespace TenzroDiscovery

def new : TenzroDiscovery where
  pollInterval := 30 * 1000000000

def withPollInterval (discovery : TenzroDiscovery) (interval : ℕ) : TenzroDiscovery :=
  { discovery with pollInterval := interval }

end TenzroDiscovery

inductive Cmd where
  | listProviders
  | yield (item : Except DiscoveryError PeerAnnouncement)
  | sleep (duration : ℕ)

def io : Interface where
  Cmd := Cmd
  Reply
    | .listProviders => Except SdkError (List NetworkProvider)
    | .yield _ => Unit
    | .sleep _ => Unit

def listProviders : Prog io (Except SdkError (List NetworkProvider)) :=
  request (I := io) .listProviders

def yield (item : Except DiscoveryError PeerAnnouncement) : Prog io Unit :=
  request (I := io) (.yield item)

def sleep (duration : ℕ) : Prog io Unit := request (I := io) (.sleep duration)

def mapSdk (debug : SdkError → String) : SdkError → DiscoveryError
  | .connectionError message => .terminated message
  | .rpcError message => .terminated message
  | .timeout => .terminated "timeout"
  | error => .setup (debug error)

section

variable (debug : SdkError → String) (blake3 : Bytes → Octets 32)

def peerIdFromLibp2p (peerId : String) : PeerId := blake3 (utf8 peerId)

/-- A label of a field, unless the field is empty. -/
def label (name text : String) : List String := if text = "" then [] else [name ++ "=" ++ text]

def announcementFromProvider (provider : NetworkProvider) : PeerAnnouncement where
  peer := peerIdFromLibp2p blake3 provider.peerId
  endpoint := if provider.rpcEndpoint = "" then none else some provider.rpcEndpoint
  labels := label "libp2p" provider.peerId ++ label "type" provider.providerType ++
    label "status" provider.status ++ provider.capabilities.map ("cap=" ++ ·) ++
    provider.servedModels.map ("model=" ++ ·)

def yieldAll : List NetworkProvider → Prog io Unit
  | [] => pure ()
  | provider :: rest => do
      yield (.ok (announcementFromProvider blake3 provider))
      yieldAll rest

/-- A round of the loop; no round is the last. -/
def poll (interval : ℕ) : ExceptT DiscoveryError (Prog io) (Option Empty) := do
  let providers ← orFail (mapSdk debug) listProviders
  ExceptT.lift (yieldAll blake3 providers)
  ExceptT.lift (sleep interval)
  return none

inductive StreamState where
  | polling
  | ended
deriving DecidableEq

/-- The stream, for the given number of rounds. -/
def start (rounds : ℕ) (discovery : TenzroDiscovery) : Prog io StreamState := do
  match ← (loop (poll debug blake3 discovery.pollInterval) rounds).run with
  | .ok _ => return .polling
  | .error error =>
      yield (.error error)
      return .ended

end

end TenzroEdge.Discovery
