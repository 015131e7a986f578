import TenzroEdge.DpopRpc.Shared
import TenzroEdge.Interaction.Receiver

/-!
# Requests that arrive more than once

The network delivers the requests of the clones in any order, and each as often as it likes, or
never. The server sees them under a URL of its own, which behind a reverse proxy is not the
endpoint. It makes all checks but that of `ath`, and remembers the claim `jti` of the requests that
it has executed, to prevent replay. Of the requests that arrive it then executes those of the calls
whose override names its URL, or whose endpoint does where there is no override, and each of them
once: since every call draws a nonce of its own, none is taken for a repetition of another.
-/

namespace TenzroEdge.DpopRpc

open Codec Auth Interaction Interaction.Prog

/-- The request as the server sees it behind a reverse proxy. -/
def Request.seenUnder (served : String) (request : Request) : Request :=
  { request with url := served }

theorem Request.token?_seenUnder (served : String) (request : Request) :
    (request.seenUnder served).token? = request.token? := rfl

/-- The server makes all checks but that of `ath`, and the token of the client is bound to its
key. -/
structure Guarded {ed25519 : Ed25519} {sha256 : Bytes → Octets 32} (jktOf : String → Option String)
    (accepts : Request → Bool) (rpc : DpopRpc ed25519 sha256) : Prop where
  verifies : ∀ seed message,
    ed25519.verify (ed25519.publicKey seed) message (ed25519.sign seed message) = true
  checks : ∀ request, accepts request = true ↔ PassesExceptAth ed25519 sha256 jktOf request
  bound : jktOf rpc.bearerJwt = some rpc.signer.jwkThumbprint

/-- What the server remembers of a request that passes its checks. -/
def jtiOf (accepts : Request → Bool) (served : String) (request : Request) : Option String :=
  if accepts (request.seenUnder served) then
    (readProof request.dpop).bind fun proof => proof.payload.getStr? "jti"
  else none

def executed (accepts : Request → Bool) (served : String) (arrivals : List Request) :
    List Request :=
  (Receiver.receiveAll (jtiOf accepts served) arrivals).executed

section

variable {ed25519 : Ed25519} {sha256 : Bytes → Octets 32} {α ι : Type}

/-- What a call has read before it sends its request. -/
structure Read (rpc : DpopRpc ed25519 sha256) (method : String) (params : Json)
    (transcript : List (Exchange io)) (request : Request) (htu : Option String)
    (nonce : Octets 16) : Prop where
  minted : ∃ id clock proof, readings id htu clock nonce <+: transcript ∧
    rpc.signer.mintProof "POST" (htu.getD rpc.endpoint) clock nonce = .ok proof ∧
    request = rpc.requestOf method params id proof

/-- A call has read an override that names the URL, or none where its endpoint does. -/
def Addressed (rpc : DpopRpc ed25519 sha256) (method : String) (params : Json)
    (transcript : List (Exchange io)) (served : String) (request : Request) : Prop :=
  ∃ htu nonce, Read rpc method params transcript request htu nonce ∧
    htu.getD rpc.endpoint = withoutQuery served

/-- What arrives is executed once if it is addressed to the server, and not otherwise, and every
arrival stands for one call. -/
structure ExecutedOnce (accepts : Request → Bool) (served : String) (rpc : DpopRpc ed25519 sha256)
    (method : ι → String) (params : ι → Json) (journal : ι → List (Exchange io))
    (arrivals : List Request) : Prop where
  once : (executed accepts served arrivals).Nodup
  addressed : ∀ request, request ∈ executed accepts served arrivals ↔
    request ∈ arrivals ∧ ∃ i, Addressed rpc (method i) (params i) (journal i) served request
  own : ∀ request ∈ arrivals, ∃! i, Own rpc (method i) (params i) (journal i) request

/-! ## What a call is remembered by -/

theorem Own.read {rpc : DpopRpc ed25519 sha256} {method : String} {params : Json}
    {transcript : List (Exchange io)} {request : Request}
    (own : Own rpc method params transcript request) :
    ∃ htu nonce, Read rpc method params transcript request htu nonce := by
  cases own with
  | @request id htu clock nonce proof read minted =>
      exact ⟨htu, nonce, ⟨id, clock, proof, read, minted, rfl⟩⟩

section

variable {rpc : DpopRpc ed25519 sha256} {method otherMethod : String} {params otherParams : Json}
  {transcript otherTranscript : List (Exchange io)} {request other : Request}
  {htu otherHtu : Option String} {nonce otherNonce : Octets 16}

theorem Read.drawn (read : Read rpc method params transcript request htu nonce) :
    (⟨.draw, nonce⟩ : Exchange io) ∈ transcript := by
  rcases read.minted with ⟨id, clock, proof, readBefore, -, -⟩
  apply readBefore.subset
  simp [readings]

theorem Addressed.own {served : String}
    (addressed : Addressed rpc method params transcript served request) :
    Own rpc method params transcript request := by
  rcases addressed with ⟨htu, nonce, read, -⟩
  rcases read.minted with ⟨id, clock, proof, readBefore, minted, rfl⟩
  exact .request readBefore minted

/-- A call sends one request. -/
theorem Read.unique (read : Read rpc method params transcript request htu nonce)
    (again : Read rpc method params transcript other otherHtu otherNonce) :
    request = other ∧ htu = otherHtu := by
  rcases read.minted with ⟨id, clock, proof, readBefore, minted, rfl⟩
  rcases again.minted with ⟨otherId, otherClock, otherProof, otherBefore, otherMinted, rfl⟩
  have same : readings id htu clock nonce = readings otherId otherHtu otherClock otherNonce :=
    (List.prefix_of_prefix_length_le readBefore otherBefore (Nat.le_refl _)).eq_of_length rfl
  cases same
  rw [minted] at otherMinted
  cases otherMinted
  exact ⟨rfl, rfl⟩

/-- Equal requests carry equal nonces. -/
theorem Read.nonce_eq (read : Read rpc method params transcript request htu nonce)
    (again : Read rpc otherMethod otherParams otherTranscript request otherHtu otherNonce) :
    nonce = otherNonce := by
  rcases read.minted with ⟨id, clock, proof, -, minted, sent⟩
  rcases again.minted with ⟨otherId, otherClock, otherProof, -, otherMinted, otherSent⟩
  have same : proof = otherProof := congrArg Request.dpop (sent.symm.trans otherSent)
  rw [same] at minted
  exact nonce_eq_of_mintProof otherMinted minted

variable {jktOf : String → Option String} {accepts : Request → Bool} {served : String}

/-- The server remembers the nonce of a call that is addressed to it, and nothing of another. -/
theorem Read.jtiOf_eq (guarded : Guarded jktOf accepts rpc)
    (read : Read rpc method params transcript request htu nonce) :
    jtiOf accepts served request =
      if htu.getD rpc.endpoint = withoutQuery served then some (hexEncode nonce.bytes)
      else none := by
  rcases read.minted with ⟨id, clock, proof, -, minted, rfl⟩
  have seen : rpc.signer.mintProof "POST" (htu.getD rpc.endpoint) clock nonce =
      .ok ((rpc.requestOf method params id proof).seenUnder served).dpop := minted
  have passes : accepts ((rpc.requestOf method params id proof).seenUnder served) = true ↔
      htu.getD rpc.endpoint = withoutQuery served := by
    rw [guarded.checks, passesExceptAth_iff guarded.verifies seen, Request.token?_seenUnder,
      token?_requestOf]
    constructor
    · exact fun fits => fits.2.1.symm
    · exact fun fits => ⟨rfl, fits.symm, guarded.bound⟩
  by_cases fits : htu.getD rpc.endpoint = withoutQuery served
  · have carried : (rpc.requestOf method params id proof).dpop = proof := rfl
    rw [jtiOf, if_pos (passes.mpr fits), if_pos fits, carried, readProof_mintProof minted]
    simp [mintedPayload, payload_eq, Json.getStr?]
  · rw [jtiOf, if_neg (mt passes.mp fits), if_neg fits]

end

/-! ## Interleaved calls -/

section

variable {rpc : DpopRpc ed25519 sha256} {accepts : Request → Bool} {jktOf : String → Option String}
  {served : String} {method : ι → String} {params : ι → Json} {world : Journaled io ι (Counter ι)}

theorem call_eq_of_nonce (fresh : FreshNonces world) {i j : ι} {request other : Request}
    {htu otherHtu : Option String} {nonce : Octets 16}
    (read : Read rpc (method i) (params i) (world.journal i) request htu nonce)
    (again : Read rpc (method j) (params j) (world.journal j) other otherHtu nonce) : i = j := by
  by_contra differ
  exact fresh i j nonce differ read.drawn again.drawn

/-- Requests that are remembered alike are one request. -/
theorem eq_of_jti (guarded : Guarded jktOf accepts rpc) (fresh : FreshNonces world) {i j : ι}
    {request other : Request} {htu otherHtu : Option String} {nonce otherNonce : Octets 16}
    {jti : String} (read : Read rpc (method i) (params i) (world.journal i) request htu nonce)
    (again : Read rpc (method j) (params j) (world.journal j) other otherHtu otherNonce)
    (remembered : jtiOf accepts served request = some jti)
    (otherRemembered : jtiOf accepts served other = some jti) : request = other := by
  rw [read.jtiOf_eq guarded] at remembered
  rw [again.jtiOf_eq guarded] at otherRemembered
  split at remembered
  case isFalse => cases remembered
  split at otherRemembered
  case isFalse => cases otherRemembered
  have sameNonce : nonce = otherNonce := by
    apply Octets.bytes_injective 16
    apply hexEncode_injective
    exact Option.some.inj (remembered.trans otherRemembered.symm)
  subst sameNonce
  have sameCall : i = j := call_eq_of_nonce fresh read again
  subst sameCall
  exact (read.unique again).1

/-- What arrives of calls that draw different nonces is executed once if it is addressed to the
server. -/
theorem executedOnce_of_own (guarded : Guarded jktOf accepts rpc) (fresh : FreshNonces world)
    (served : String) {arrivals : List Request}
    (own : ∀ request ∈ arrivals, ∃ i, Own rpc (method i) (params i) (world.journal i) request) :
    ExecutedOnce accepts served rpc method params world.journal arrivals := by
  constructor
  case once => exact Receiver.executed_nodup _
  case addressed =>
    intro request
    constructor
    · intro mem
      have arrived : request ∈ arrivals := Receiver.executed_subset _ mem
      rcases Receiver.key_of_mem_executed _ mem with ⟨jti, remembered⟩
      rcases own request arrived with ⟨i, sent⟩
      rcases sent.read with ⟨htu, nonce, read⟩
      refine ⟨arrived, i, htu, nonce, read, ?_⟩
      rw [read.jtiOf_eq guarded] at remembered
      by_contra other
      rw [if_neg other] at remembered
      cases remembered
    · rintro ⟨arrived, i, htu, nonce, read, fits⟩
      have remembered : jtiOf accepts served request = some (hexEncode nonce.bytes) := by
        rw [read.jtiOf_eq guarded, if_pos fits]
      apply Receiver.mem_executed_of_mem remembered arrived
      intro other otherArrived otherRemembered
      rcases own other otherArrived with ⟨j, otherSent⟩
      rcases otherSent.read with ⟨otherHtu, otherNonce, again⟩
      exact eq_of_jti guarded fresh again read otherRemembered remembered
  case own =>
    intro request arrived
    rcases own request arrived with ⟨i, sent⟩
    refine ⟨i, sent, ?_⟩
    intro j otherSent
    rcases sent.read with ⟨htu, nonce, read⟩
    rcases otherSent.read with ⟨otherHtu, otherNonce, again⟩
    have sameNonce := read.nonce_eq again
    subst sameNonce
    exact (call_eq_of_nonce fresh read again).symm

end

/-- However the network orders and repeats the requests, those that are addressed to the server are
executed once, and no others are. -/
theorem calls_executed_once [DecidableEq ι] {rpc : DpopRpc ed25519 sha256}
    {accepts : Request → Bool} {jktOf : String → Option String} {decoding : ι → Decoding α}
    {method : ι → String} {params : ι → Json} {first : UInt64}
    {pool : Pool io ι (Journaled io ι (Counter ι)) (Except TenzroEdgeError α)}
    (guarded : Guarded jktOf accepts rpc)
    (reached : Pool.Reachable (journaling serveShared) (calls rpc decoding method params first)
      pool)
    (fresh : FreshNonces pool.state) (served : String) (arrivals : List Request)
    (sent : ∀ request ∈ arrivals, ∃ i, Sends (pool.state.journal i) (pool.progs i) request) :
    ExecutedOnce accepts served rpc method params pool.state.journal arrivals := by
  apply executedOnce_of_own guarded fresh
  intro request arrived
  rcases sent request arrived with ⟨i, sends⟩
  exact ⟨i, (progress_of_reachable reached i).own sends⟩

end

/-- A server that knows the key that the token of the client is bound to. -/
noncomputable def acceptsOf42 (request : Request) : Bool :=
  open Classical in decide (PassesExceptAth schemeOf42 sha256Of42
    (fun _ => some (clientOf42 "one").signer.jwkThumbprint) request)

/-- The request that one of the two calls is left with. -/
def inFlight (second : Bool) : List Request :=
  match (callsAfter 4).progs second with
  | .call (.send request) _ => [request]
  | _ => []

theorem sends_of_mem_inFlight {second : Bool} {request : Request}
    (mem : request ∈ inFlight second) :
    Sends ((callsAfter 4).state.journal second) ((callsAfter 4).progs second) request := by
  unfold inFlight at mem
  split at mem
  next own next left =>
    rw [List.mem_singleton.mp mem]
    exact .inl ⟨next, left⟩
  · cases mem

theorem guarded_clientOf42 :
    Guarded (fun _ => some (clientOf42 "one").signer.jwkThumbprint) acceptsOf42
      (clientOf42 "one") where
  verifies _ _ := by simp [schemeOf42]
  checks request := by simp [acceptsOf42]
  bound := rfl

/-- The later request overtakes the earlier one, and is repeated behind it. -/
theorem calls_executed_once_overtaking :
    (inFlight false).length = 1 ∧ (inFlight true).length = 1 ∧
      ExecutedOnce acceptsOf42 "https://rpc.tenzro.network" (clientOf42 "one")
        (fun _ => "tenzro_signMessage") (fun _ => .null) (callsAfter 4).state.journal
        (inFlight true ++ inFlight false ++ inFlight true) := by
  refine ⟨rfl, rfl, ?_⟩
  apply calls_executed_once guarded_clientOf42 (Pool.reachable_schedule _ callsOf42)
    freshNonces_callsAfter_four
  intro request arrived
  rcases List.mem_append.mp arrived with earlier | again
  · rcases List.mem_append.mp earlier with later | first
    · exact ⟨true, sends_of_mem_inFlight later⟩
    · exact ⟨false, sends_of_mem_inFlight first⟩
  · exact ⟨true, sends_of_mem_inFlight again⟩

end TenzroEdge.DpopRpc
