import TenzroEdge.Auth.Proof
import TenzroEdge.DpopRpc.Call
import Mathlib.Data.List.TakeWhile

/-!
# What the proof of a call is bound to

A server checks a request the way RFC 9449, section 4.3, prescribes: the proof has to
fit the method and the URL of the request, its signature has to be by the key that it
embeds, the access token has to be bound to that key, and the claim `ath` has to be
the hash of the token. The requests of `call` pass all of these checks but the last:
their proofs have no claim `ath`. A proof is therefore bound to its endpoint and to
its key, and goes with every token bound to that key.
-/

namespace TenzroEdge.DpopRpc

open Codec Auth Interaction Interaction.Prog

/-! ## The checks of a server -/

def withoutQuery (url : String) : String :=
  String.ofList (url.toList.takeWhile fun char => char ≠ '?' && char ≠ '#')

theorem withoutQuery_idem (url : String) : withoutQuery (withoutQuery url) = withoutQuery url := by
  rw [withoutQuery, withoutQuery, String.toList_ofList, List.takeWhile_idem]

def Request.token? (request : Request) : Option String :=
  afterStart "DPoP " request.authorization

section

variable (ed25519 : Ed25519) (sha256 : Bytes → Octets 32) (jktOf : String → Option String)

/-- The checks of a proof against its request that do not involve `ath`; `jktOf` gives the
thumbprint of the key that an access token is bound to. -/
structure FitsExceptAth (request : Request) (proof : Proof) : Prop where
  typ : proof.header.getStr? "typ" = some "dpop+jwt"
  alg : proof.header.getStr? "alg" = some "EdDSA"
  jti : (proof.payload.get? "jti").isSome
  iat : (proof.payload.get? "iat").isSome
  htm : proof.payload.getStr? "htm" = some request.method
  htu : proof.payload.getStr? "htu" = some (withoutQuery request.url)
  /-- The signature is by the embedded key, and that is the key of the token. -/
  holder : ∃ jwk key jkt, proof.header.get? "jwk" = some jwk ∧ keyOfJwk jwk = some key ∧
    ed25519.verify key proof.signed proof.signature = true ∧
    thumbprintOf sha256 jwk = some jkt ∧ request.token?.bind jktOf = some jkt

/-- The claim `ath` is the hash of the access token. -/
def FitsToken (request : Request) (proof : Proof) : Prop :=
  ∃ token, request.token? = some token ∧
    proof.payload.getStr? "ath" = some (urlSafeNoPad.encode (sha256 (utf8 token)).bytes)

/-- A server that checks everything but `ath` accepts the request. -/
def PassesExceptAth (request : Request) : Prop :=
  ∃ proof, readProof request.dpop = some proof ∧
    FitsExceptAth ed25519 sha256 jktOf request proof

/-- A server that checks everything accepts the request. -/
def Accepted (request : Request) : Prop :=
  ∃ proof, readProof request.dpop = some proof ∧
    FitsExceptAth ed25519 sha256 jktOf request proof ∧ FitsToken sha256 request proof

end

/-! ## Calls and what they send -/

structure Surroundings where
  id : UInt64
  htu : Option String
  clock : SystemTime
  nonce : Octets 16
  answer : Request → Except String Response

def serve (surroundings : Surroundings) : Handler io (List Request) := fun cmd sent =>
  match cmd with
  | .takeId => (surroundings.id, sent)
  | .readHtu => (surroundings.htu, sent)
  | .now => (surroundings.clock, sent)
  | .draw => (surroundings.nonce, sent)
  | .send request => (surroundings.answer request, sent ++ [request])

section

variable {ed25519 : Ed25519} {sha256 : Bytes → Octets 32} {α : Type} (decoding : Decoding α)
  (rpc : DpopRpc ed25519 sha256) (method : String) (params : Json) (surroundings : Surroundings)

/-- The requests that a call sends. -/
def sentBy : List Request :=
  (run (serve surroundings) (rpc.call decoding method params).run []).2

def mintedBy : Except TenzroEdgeError String :=
  rpc.signer.mintProof "POST" (surroundings.htu.getD rpc.endpoint) surroundings.clock
    surroundings.nonce

/-- A call sends one request, unless no proof can be minted. -/
theorem sentBy_eq : sentBy decoding rpc method params surroundings =
    match rpc.mintedBy surroundings with
    | .error _ => []
    | .ok proof => [rpc.requestOf method params surroundings.id proof] := by
  have sent : sentBy decoding rpc method params surroundings =
      (run (serve surroundings) (drawRest decoding rpc method params surroundings.id
        (surroundings.htu.getD rpc.endpoint) (issuedAt surroundings.clock)) []).2 := by
    rw [sentBy, call_eq]
    rfl
  rw [sent, mintedBy, DpopSigner.mintProof]
  cases issuedAt surroundings.clock with
  | error error => rfl
  | ok iat => rfl

theorem mem_sentBy {request : Request} :
    request ∈ sentBy decoding rpc method params surroundings ↔
      ∃ proof, rpc.mintedBy surroundings = .ok proof ∧
        request = rpc.requestOf method params surroundings.id proof := by
  rw [sentBy_eq]
  cases rpc.mintedBy surroundings with
  | error error => simp
  | ok proof => simp

end

/-! ## What a minted proof fits -/

section

variable {ed25519 : Ed25519} {sha256 : Bytes → Octets 32} {jktOf : String → Option String}
  {signer : DpopSigner ed25519 sha256} {htu : String} {clock : SystemTime} {nonce : Octets 16}
  {request : Request}

theorem getStr?_ath_mintedPayload {htm : String} :
    (mintedPayload htm htu clock nonce).getStr? "ath" = none := by
  simp [mintedPayload, payload_eq, Json.getStr?]

theorem not_accepted {htm : String}
    (minted : signer.mintProof htm htu clock nonce = .ok request.dpop) :
    ¬ Accepted ed25519 sha256 jktOf request := by
  rintro ⟨proof, read, -, token, -, ath⟩
  rw [readProof_mintProof minted] at read
  rw [← Option.some.inj read, getStr?_ath_mintedPayload] at ath
  cases ath

/-- A server that does not check `ath` looks at the method, the URL and the key of the token. -/
theorem passesExceptAth_iff
    (verifies : ∀ seed message,
      ed25519.verify (ed25519.publicKey seed) message (ed25519.sign seed message) = true)
    {htm : String} (minted : signer.mintProof htm htu clock nonce = .ok request.dpop) :
    PassesExceptAth ed25519 sha256 jktOf request ↔
      request.method = htm ∧ withoutQuery request.url = htu ∧
        request.token?.bind jktOf = some signer.jwkThumbprint := by
  have read := readProof_mintProof minted
  have htmClaim : (mintedPayload htm htu clock nonce).getStr? "htm" = some htm := by
    simp [mintedPayload, payload_eq, Json.getStr?]
  have htuClaim : (mintedPayload htm htu clock nonce).getStr? "htu" = some htu := by
    simp [mintedPayload, payload_eq, Json.getStr?]
  have jwkMember : signer.header.get? "jwk" = some signer.jwk := by
    simp [header_eq]
  constructor
  · rintro ⟨proof, readHere, fits⟩
    rw [read] at readHere
    have same := Option.some.inj readHere
    subst same
    rcases fits.holder with ⟨jwk, key, jkt, member, -, -, thumbprint, bound⟩
    rw [jwkMember] at member
    rw [← Option.some.inj member, thumbprintOf_jwk] at thumbprint
    refine ⟨?_, ?_, by rw [bound, thumbprint]⟩
    · exact (Option.some.inj (htmClaim.symm.trans fits.htm)).symm
    · exact (Option.some.inj (htuClaim.symm.trans fits.htu)).symm
  · rintro ⟨method, url, bound⟩
    refine ⟨_, read, ?_⟩
    constructor
    case typ => simp [header_eq, Json.getStr?]
    case alg => simp [header_eq, Json.getStr?]
    case jti => simp [mintedPayload, payload_eq]
    case iat => simp [mintedPayload, payload_eq]
    case htm => rw [htmClaim, method]
    case htu => rw [htuClaim, url]
    case holder =>
      refine ⟨_, _, _, jwkMember, keyOfJwk_jwk, ?_, thumbprintOf_jwk, bound⟩
      rw [signer.verifyingKey_eq]
      exact verifies signer.signingKey _

end

/-! ## Calls of two clients -/

section

variable {ed25519 : Ed25519} {sha256 : Bytes → Octets 32} {jktOf : String → Option String}
  {α : Type} {decoding : Decoding α} {rpc : DpopRpc ed25519 sha256} {method : String}
  {params : Json} {surroundings : Surroundings} {request : Request}

@[simp]
theorem token?_requestOf (id : UInt64) (proof : String) :
    (rpc.requestOf method params id proof).token? = some rpc.bearerJwt :=
  afterStart_append _ _

/-- With a proof for a URL, a request passes where that is its endpoint without query and fragment
and where its token is bound to the key of the proof. -/
theorem passesExceptAth_requestOf_iff {signer : DpopSigner ed25519 sha256} {htu proof : String}
    {clock : SystemTime} {nonce : Octets 16} {id : UInt64}
    (verifies : ∀ seed message,
      ed25519.verify (ed25519.publicKey seed) message (ed25519.sign seed message) = true)
    (minted : signer.mintProof "POST" htu clock nonce = .ok proof) :
    PassesExceptAth ed25519 sha256 jktOf (rpc.requestOf method params id proof) ↔
      withoutQuery rpc.endpoint = htu ∧ jktOf rpc.bearerJwt = some signer.jwkThumbprint := by
  have carried : (rpc.requestOf method params id proof).dpop = proof := rfl
  rw [← carried] at minted
  rw [passesExceptAth_iff verifies minted, token?_requestOf]
  exact and_iff_right rfl

/-- Without the override, the proof of a request is for the endpoint. -/
theorem minted_of_mem_sentBy (unset : surroundings.htu = none)
    (sent : request ∈ sentBy decoding rpc method params surroundings) :
    rpc.signer.mintProof "POST" rpc.endpoint surroundings.clock surroundings.nonce =
      .ok request.dpop := by
  rcases (mem_sentBy ..).mp sent with ⟨proof, minted, rfl⟩
  rwa [mintedBy, unset] at minted

theorem length_sentBy (afterEpoch : 0 ≤ surroundings.clock.seconds) :
    (sentBy decoding rpc method params surroundings).length = 1 := by
  rw [sentBy_eq, mintedBy, mintProof_of_nonneg afterEpoch]
  rfl

end

/-- What the proofs are bound to that the first of two clients sends, beside what the second
sends. -/
structure BoundToEndpoint {ed25519 : Ed25519} {sha256 : Bytes → Octets 32}
    (jktOf : String → Option String) (first second : DpopRpc ed25519 sha256)
    (sent others : List Request) : Prop where
  /-- To an endpoint without query and fragment, a request passes all checks but that of `ath`. -/
  passes : withoutQuery first.endpoint = first.endpoint →
    ∀ request ∈ sent, PassesExceptAth ed25519 sha256 jktOf request
  /-- No request passes the check of `ath`. -/
  refused : ∀ request ∈ sent, ¬ Accepted ed25519 sha256 jktOf request
  /-- A captured proof goes only with requests to the same endpoint, up to query and fragment. -/
  endpoint : ∀ captured ∈ sent, ∀ request ∈ others,
    PassesExceptAth ed25519 sha256 jktOf { request with dpop := captured.dpop } →
      withoutQuery first.endpoint = withoutQuery second.endpoint
  /-- And there it does, whatever the tokens are. -/
  anyToken : withoutQuery first.endpoint = first.endpoint →
    withoutQuery first.endpoint = withoutQuery second.endpoint →
    ∀ captured ∈ sent, ∀ request ∈ others,
      PassesExceptAth ed25519 sha256 jktOf { request with dpop := captured.dpop }

/-- Where `TENZRO_DPOP_HTU` is unset, calls of two clients with one signer, whose tokens are bound
to that signer's key, send proofs that are bound to the endpoint. -/
theorem call_boundToEndpoint {ed25519 : Ed25519} {sha256 : Bytes → Octets 32} {α : Type}
    (verifies : ∀ seed message,
      ed25519.verify (ed25519.publicKey seed) message (ed25519.sign seed message) = true)
    (jktOf : String → Option String) (decoding : Decoding α) (first second : DpopRpc ed25519 sha256)
    (shared : second.signer = first.signer)
    (firstBound : jktOf first.bearerJwt = some first.signer.jwkThumbprint)
    (secondBound : jktOf second.bearerJwt = some second.signer.jwkThumbprint)
    (method otherMethod : String) (params otherParams : Json)
    (surroundings otherSurroundings : Surroundings) (unset : surroundings.htu = none) :
    (0 ≤ surroundings.clock.seconds →
      (sentBy decoding first method params surroundings).length = 1) ∧
    BoundToEndpoint jktOf first second (sentBy decoding first method params surroundings)
      (sentBy decoding second otherMethod otherParams otherSurroundings) := by
  refine ⟨length_sentBy, ?_⟩
  constructor
  case passes =>
    intro clean request sent
    have minted := minted_of_mem_sentBy unset sent
    rcases (mem_sentBy ..).mp sent with ⟨proof, -, rfl⟩
    exact (passesExceptAth_requestOf_iff verifies minted).mpr ⟨clean, firstBound⟩
  case refused =>
    intro request sent
    exact not_accepted (minted_of_mem_sentBy unset sent)
  case endpoint =>
    intro captured sent request otherSent passes
    have minted := minted_of_mem_sentBy unset sent
    rcases (mem_sentBy ..).mp otherSent with ⟨otherProof, -, rfl⟩
    have url := ((passesExceptAth_requestOf_iff verifies minted).mp passes).1
    rw [← url, withoutQuery_idem]
  case anyToken =>
    intro clean same captured sent request otherSent
    have minted := minted_of_mem_sentBy unset sent
    rcases (mem_sentBy ..).mp otherSent with ⟨otherProof, -, rfl⟩
    have sameKey : jktOf second.bearerJwt = some first.signer.jwkThumbprint := by
      rw [secondBound, shared]
    exact (passesExceptAth_requestOf_iff verifies minted).mpr ⟨same.symm.trans clean, sameKey⟩

/-- A client of the network's endpoint that presents the given token. -/
def clientOf42 (bearerJwt : String) : DpopRpc schemeOf42 sha256Of42 where
  endpoint := "https://rpc.tenzro.network"
  bearerJwt := bearerJwt
  signer := .fromSeed (.replicate 32 42)

def surroundingsOf42 : Surroundings where
  id := 1
  htu := none
  clock := clockOf42
  nonce := nonceOf42
  answer _ := .error "error sending request"

def rawDecoding : Decoding Json where
  fromValue := .ok
  decodeError _ := ""
  statusText _ := ""

theorem call_boundToEndpoint_42 :
    (0 ≤ surroundingsOf42.clock.seconds →
      (sentBy rawDecoding (clientOf42 "one") "tenzro_signMessage" .null
        surroundingsOf42).length = 1) ∧
    BoundToEndpoint (fun _ => some (clientOf42 "one").signer.jwkThumbprint) (clientOf42 "one")
      (clientOf42 "two")
      (sentBy rawDecoding (clientOf42 "one") "tenzro_signMessage" .null surroundingsOf42)
      (sentBy rawDecoding (clientOf42 "two") "tenzro_signMessage" .null surroundingsOf42) := by
  have shared : (clientOf42 "two").signer = (clientOf42 "one").signer := rfl
  exact call_boundToEndpoint (fun _ _ => by simp [schemeOf42]) _ rawDecoding (clientOf42 "one")
    (clientOf42 "two") shared (by rfl) (by rw [shared]) _ _ _ _ surroundingsOf42 _ (by rfl)

/-- A server that checks `ath` refuses a call to a plain endpoint with a token bound to its key. -/
theorem call_refused_by_strict_server :
    ∃ request, sentBy rawDecoding (clientOf42 "one") "tenzro_signMessage" .null
        surroundingsOf42 = [request] ∧
      ¬ Accepted schemeOf42 sha256Of42 (fun _ => some (clientOf42 "one").signer.jwkThumbprint)
        request := by
  have afterEpoch : 0 ≤ surroundingsOf42.clock.seconds := by simp [surroundingsOf42, clockOf42]
  rcases List.length_eq_one_iff.mp (length_sentBy afterEpoch) with ⟨request, sent⟩
  refine ⟨request, sent, ?_⟩
  have mem : request ∈ sentBy rawDecoding (clientOf42 "one") "tenzro_signMessage" .null
      surroundingsOf42 := by rw [sent]; exact List.mem_singleton_self request
  exact not_accepted (minted_of_mem_sentBy rfl mem)

end TenzroEdge.DpopRpc
