import TenzroEdge.Config.FromEnv
import TenzroEdge.Interaction.Replay
import TenzroEdge.ReceiptSink.Anchored

/-!
# From the environment to the wire

A handle is connected with the configuration that is read from the environment, and keeps the
endpoint next to the client of the SDK. Receipt sinks take their endpoint from the handle and
never read it again, so that whatever the environment becomes, the requests that they hand to
the HTTP client name the node that the SDK was connected with. Where that client is then led by
redirects is not part of this.
-/

namespace TenzroEdge

open Codec Interaction Interaction.Prog

/-- The configuration of the SDK. -/
structure SdkConfig where
  endpoint : String
  timeoutMs : UInt64
  maxRetries : UInt32
  apiKey : Option String
  chainId : UInt64
deriving DecidableEq

def TenzroEdgeConfig.intoSdkConfig (config : TenzroEdgeConfig) : SdkConfig where
  endpoint := config.endpoint
  timeoutMs := config.timeoutMs
  maxRetries := config.maxRetries
  apiKey := config.apiKey
  chainId := config.chainId

structure TenzroHandle (Client : Type) where
  inner : Client
  endpoint : String

namespace Config

/-- What connecting asks for: a look at the environment, and a client of the SDK. -/
inductive Cmd where
  | environment
  | connect (config : SdkConfig)

def boot (Client : Type) : Interface where
  Cmd := Cmd
  Reply
    | .environment => Environment
    | .connect _ => Except SdkError Client

section

variable {Client : Type} (debug : SdkError → String)

def environment : Prog (boot Client) Environment := request (I := boot Client) .environment

def sdkConnect (config : SdkConfig) : Prog (boot Client) (Except SdkError Client) :=
  request (I := boot Client) (.connect config)

def connect (config : TenzroEdgeConfig) :
    ExceptT TenzroEdgeError (Prog (boot Client)) (TenzroHandle Client) := do
  let endpoint := config.endpoint
  let client ← orFail (fun error => .sdk (debug error)) (sdkConnect config.intoSdkConfig)
  return { inner := client, endpoint }

def connectFromEnv : ExceptT TenzroEdgeError (Prog (boot Client)) (TenzroHandle Client) := do
  let env ← ExceptT.lift environment
  let config ← ExceptT.mk (.ret (fromEnv env))
  connect debug config

end

end Config

/-! ## Sinks -/

/-- A new client; `http` is the outcome of building the HTTP client. -/
def DpopRpc.new {ed25519 : Auth.Ed25519} {sha256 : Bytes → Octets 32} (http : Except String Unit)
    (endpoint bearerJwt : String) (signer : Auth.DpopSigner ed25519 sha256) :
    Except TenzroEdgeError (DpopRpc ed25519 sha256) := do
  http.mapError fun error => .sdk ("reqwest build: " ++ error)
  return { endpoint, bearerJwt, signer }

namespace ReceiptSink

variable {ed25519 : Auth.Ed25519} {sha256 : Bytes → Octets 32}

def TenzroReceiptSink.new {Client : Type} (http : Except String Unit) (id : String)
    (handle : TenzroHandle Client) (bearerJwt : String)
    (signer : Auth.DpopSigner ed25519 sha256) :
    Except TenzroEdgeError (TenzroReceiptSink ed25519 sha256) := do
  let endpoint := handle.endpoint
  let rpc ← DpopRpc.new http endpoint bearerJwt signer
  return { id, rpc }

theorem rpc_of_new {Client : Type} {http : Except String Unit} {id : String}
    {handle : TenzroHandle Client} {bearerJwt : String} {signer : Auth.DpopSigner ed25519 sha256}
    {sink : TenzroReceiptSink ed25519 sha256}
    (built : TenzroReceiptSink.new http id handle bearerJwt signer = .ok sink) :
    sink.rpc = ⟨handle.endpoint, bearerJwt, signer⟩ := by
  cases http with
  | error error => cases built
  | ok _ =>
      cases built
      rfl

end ReceiptSink

/-! ## Connected handles -/

namespace Config

section

variable {Client σ : Type} {debug : SdkError → String} {serve : Handler (boot Client) σ}
  {before after : σ} {handle : TenzroHandle Client}

/-- The handle comes from the environment that was read, and the SDK has accepted the
configuration. -/
structure Connected (serve : Handler (boot Client) σ) (before : σ)
    (config : TenzroEdgeConfig) (handle : TenzroHandle Client) : Prop where
  read : fromEnv (run serve environment before).1 = .ok config
  url : (run serve environment before).1 "TENZRO_RPC_URL" = some (utf8 config.endpoint)
  accepted : (run serve (sdkConnect config.intoSdkConfig)
    (run serve environment before).2).1 = .ok handle.inner
  endpoint : handle.endpoint = config.endpoint

theorem connected_of_connectFromEnv
    (returned : run serve (connectFromEnv debug).run before = (.ok handle, after)) :
    ∃ config, Connected serve before config handle := by
  rw [connectFromEnv, run_lift_bind] at returned
  cases read : fromEnv (run serve environment before).1 with
  | error error =>
      rw [read] at returned
      cases returned
  | ok config =>
      rw [read] at returned
      have opened : (run serve (orFail (fun error => TenzroEdgeError.sdk (debug error))
          (sdkConnect config.intoSdkConfig) >>= fun client =>
            pure (⟨client, config.endpoint⟩ : TenzroHandle Client)).run
              (run serve environment before).2).1 = .ok handle := congrArg Prod.fst returned
      rcases (run_orFail_bind_pure_eq_ok_iff serve).mp opened with ⟨client, accepted, rfl⟩
      exact ⟨config, read, (fromEnv_eq_ok_iff.mp read).1, accepted, rfl⟩

end

/-! ## What the sinks of a handle send -/

section

variable {ed25519 : Auth.Ed25519} {sha256 : Bytes → Octets 32} {Receipt Client ι ε σ τ : Type}
  [DecidableEq ι] {debug : SdkError → String} {boots : Handler (boot Client) τ}
  {initially connected : τ} {handle : TenzroHandle Client} {texts : ReceiptSink.ErrorTexts}
  {serialise : Receipt → Except String Bytes} {blake3 : Bytes → Octets 32}
  {sink : ι → ReceiptSink.TenzroReceiptSink ed25519 sha256} {receipt : ι → Receipt}
  {serve : ε → ι → Handler DpopRpc.io σ}
  {start pool : Pool DpopRpc.io ι (Journaled DpopRpc.io ι σ)
    (Except ReceiptSink.SinkError Unit)}

/-- Writes that have not begun: one for each member, each with a sink of its own. -/
structure Writes (texts : ReceiptSink.ErrorTexts) (serialise : Receipt → Except String Bytes)
    (blake3 : Bytes → Octets 32) (sink : ι → ReceiptSink.TenzroReceiptSink ed25519 sha256)
    (receipt : ι → Receipt) (start : Pool DpopRpc.io ι (Journaled DpopRpc.io ι σ)
      (Except ReceiptSink.SinkError Unit)) : Prop where
  unstarted : ∀ i, start.progs i =
    (ReceiptSink.write texts serialise blake3 (sink i) (receipt i)).run
  blank : ∀ i, start.state.journal i = []

/-- A write sends requests with the digest of its receipt, from its own sink. -/
theorem Writes.sent (writes : Writes texts serialise blake3 sink receipt start)
    (reached : Pool.Reachable (journaling serve) start pool) {i : ι} {request : DpopRpc.Request}
    {reply : Except String DpopRpc.Response}
    (mem : (⟨.send request, reply⟩ : Exchange DpopRpc.io) ∈ pool.state.journal i) :
    ∃ canon id proof, serialise (receipt i) = .ok canon ∧
      request = (sink i).rpc.requestOf "tenzro_signMessage"
        (ReceiptSink.messageParams (hexEncode (blake3 canon).bytes)) id proof := by
  have leaves := reached.leaves writes.blank i
  rw [writes.unstarted i] at leaves
  cases serialised : serialise (receipt i) with
  | error error =>
      rw [ReceiptSink.write_of_unserialisable serialised] at leaves
      rw [(Leaves.ret_iff.mp leaves).1] at mem
      cases mem
  | ok canon =>
      have issues := Issues.of_leaves (ReceiptSink.issues_write serialised) leaves
      cases issues.1 _ mem with
      | send id proof => exact ⟨canon, id, proof, rfl, rfl⟩

/-- However the environment changes and the writes interleave once a handle is connected, every
request that one of its sinks hands to the HTTP client names the node that the SDK was connected
with, which the environment has named then. -/
theorem writes_reach_connected_node {http : ι → Except String Unit} {id bearerJwt : ι → String}
    {signer : ι → Auth.DpopSigner ed25519 sha256}
    (opened : run boots (connectFromEnv debug).run initially = (.ok handle, connected))
    (built : ∀ i, ReceiptSink.TenzroReceiptSink.new (http i) (id i) handle (bearerJwt i)
      (signer i) = .ok (sink i))
    (writes : Writes texts serialise blake3 sink receipt start)
    (reached : Pool.Reachable (journaling serve) start pool) :
    ∃ config, Connected boots initially config handle ∧
      ∀ i request reply,
        (⟨.send request, reply⟩ : Exchange DpopRpc.io) ∈ pool.state.journal i →
          request.url = config.endpoint ∧ request.authorization = "DPoP " ++ bearerJwt i ∧
            ∃ canon, serialise (receipt i) = .ok canon ∧
              ReceiptSink.submittedDigest request = some (blake3 canon) := by
  rcases connected_of_connectFromEnv opened with ⟨config, found⟩
  refine ⟨config, found, ?_⟩
  intro i request reply mem
  rcases writes.sent reached mem with ⟨canon, number, proof, serialised, rfl⟩
  have submitted := ReceiptSink.submittedDigest_requestOf (sink i).rpc (blake3 canon) number proof
  refine ⟨?_, ?_, canon, serialised, submitted⟩
  · rw [DpopRpc.requestOf, ReceiptSink.rpc_of_new (built i)]
    exact found.endpoint
  · rw [DpopRpc.requestOf, ReceiptSink.rpc_of_new (built i)]

end

/-- An environment with the endpoint of the network and nothing else. -/
def endpointOnly (name : String) : Option Bytes :=
  if name = "TENZRO_RPC_URL" then some (utf8 "https://rpc.tenzro.network") else none

/-- Connecting always succeeds. -/
def accepting : Handler (boot Unit) Unit
  | .environment, world => (endpointOnly, world)
  | .connect _, world => (.ok (), world)

def handleOf42 : TenzroHandle Unit := ⟨(), "https://rpc.tenzro.network"⟩

def sinkOf42 (second : Bool) : ReceiptSink.TenzroReceiptSink Auth.schemeOf42 Auth.sha256Of42 where
  id := "sink"
  rpc := DpopRpc.clientOf42 (if second then "two" else "one")

/-- No request is answered, and the override of the `htu` claim changes from step to step. -/
def unanswered (htu : Option String) (_ : Bool) : Handler DpopRpc.io Unit
  | .takeId, world => ((1 : UInt64), world)
  | .readHtu, world => (htu, world)
  | .now, world => (Auth.clockOf42, world)
  | .draw, world => (Auth.nonceOf42, world)
  | .send _, world => (.error "connection refused", world)

def twoWrites : Pool DpopRpc.io Bool (Journaled DpopRpc.io Bool Unit)
    (Except ReceiptSink.SinkError Unit) where
  progs second := (ReceiptSink.write ReceiptSink.noTexts ReceiptSink.serialiseObject
    (fun _ => ReceiptSink.digestOfEmptyObject) (sinkOf42 second) (Json.object [])).run
  state := ⟨(), fun _ => []⟩

def twoWritesSent : Pool DpopRpc.io Bool (Journaled DpopRpc.io Bool Unit)
    (Except ReceiptSink.SinkError Unit) :=
  twoWrites.schedule (journaling unanswered)
    (List.replicate 5 [(none, false), (some "http://0.0.0.0:8545/", true)]).flatten

theorem writes_twoWrites : Writes ReceiptSink.noTexts ReceiptSink.serialiseObject
    (fun _ => ReceiptSink.digestOfEmptyObject) sinkOf42 (fun _ => Json.object []) twoWrites :=
  ⟨fun _ => rfl, fun _ => rfl⟩

theorem opened_handleOf42 : run accepting (connectFromEnv fun _ => "").run () =
    (.ok handleOf42, ()) := by
  have read : fromEnv endpointOnly =
      .ok ⟨"https://rpc.tenzro.network", none, 1, 30000, 3⟩ := by decide
  rw [connectFromEnv, run_lift_bind]
  change run accepting (ExceptT.mk (.ret (fromEnv endpointOnly)) >>= _).run () = _
  rw [read]
  rfl

theorem built_sinkOf42 (second : Bool) : ReceiptSink.TenzroReceiptSink.new (.ok ()) "sink"
    handleOf42 (if second then "two" else "one") (.fromSeed (.replicate 32 42)) =
      .ok (sinkOf42 second) := rfl

theorem writes_reach_connected_node_twoWrites : ∃ request reply,
    (⟨.send request, reply⟩ : Exchange DpopRpc.io) ∈ twoWritesSent.state.journal true ∧
      request.url = "https://rpc.tenzro.network" ∧ request.authorization = "DPoP two" := by
  rcases writes_reach_connected_node opened_handleOf42 built_sinkOf42 writes_twoWrites
    (Pool.reachable_schedule _ twoWrites) with ⟨config, found, sent⟩
  have mem : (⟨.send _, .error "connection refused"⟩ : Exchange DpopRpc.io) ∈
      twoWritesSent.state.journal true := List.mem_of_getElem? (i := 4) rfl
  refine ⟨_, _, mem, ?_, (sent true _ _ mem).2.1⟩
  rw [(sent true _ _ mem).1, ← found.endpoint]
  rfl

end Config

end TenzroEdge
