import TenzroEdge.Auth.Signer
import TenzroEdge.Interaction.Basic

/-!
# JSON-RPC calls with a DPoP proof

`call` takes a request identifier, reads the override of the `htu` claim from the
environment, mints a proof at the clock's time and with random octets, sends the request
and decodes the reply. The HTTP client
is a crate outside the repository; the method, the URL, the headers and the body that
it is handed make up a `Request`.
-/

namespace TenzroEdge

open Codec Auth Interaction Interaction.Prog

namespace DpopRpc

structure Request where
  method : String
  url : String
  authorization : String
  dpop : String
  body : Json

structure Response where
  status : ℕ
  /-- The octets of the body, or the text of the error that reading them ended with. -/
  body : Except String Bytes

/-- What a call asks of the shared counter, the environment, the clock, the random number generator
and the network. -/
inductive Cmd where
  | takeId
  | readHtu
  | now
  | draw
  | send (request : Request)

def io : Interface where
  Cmd := Cmd
  Reply
    | .takeId => UInt64
    | .readHtu => Option String
    | .now => SystemTime
    | .draw => Octets 16
    | .send _ => Except String Response

/-- `fetch_add` on the counter that the clones of a client share. -/
def takeId : Prog io UInt64 := request (I := io) .takeId

/-- The variable `TENZRO_DPOP_HTU`, if it is set to valid Unicode. -/
def readHtu : Prog io (Option String) := request (I := io) .readHtu

def now : Prog io SystemTime := request (I := io) .now

def draw : Prog io (Octets 16) := request (I := io) .draw

def send (request : Request) : Prog io (Except String Response) :=
  Prog.request (I := io) (.send request)

/-- What crates outside the repository make of the parts of a response. -/
structure Decoding (α : Type) where
  fromValue : Json → Except String α
  /-- The error of octets that are no JSON value. -/
  decodeError : Bytes → String
  statusText : ℕ → String

def jsonText (value : Json) : String := (fromUtf8? value.print).getD ""

/-- What a call makes of the response. -/
def decodeResponse {α : Type} (decoding : Decoding α) (response : Response) :
    Except TenzroEdgeError α := do
  let octets ← response.body.mapError fun error => .sdk ("rpc decode: " ++ error)
  match Json.parse octets with
  | none => throw (.sdk ("rpc decode: " ++ decoding.decodeError octets))
  | some body =>
      if response.status < 200 ∨ 300 ≤ response.status then
        throw (.sdk ("rpc HTTP " ++ decoding.statusText response.status ++ ": " ++ jsonText body))
      match body.get? "error" with
      | some error => throw (.sdk ("rpc error: " ++ jsonText error))
      | none =>
          match body.get? "result" with
          | none => throw (.sdk "rpc response missing result")
          | some result =>
              (decoding.fromValue result).mapError fun error =>
                .sdk ("rpc result decode: " ++ error)

/-- A response that carries a value: a success, whose body is a JSON text with a result that decodes
to the value, and without an error. -/
structure Carries {α : Type} (decoding : Decoding α) (response : Response) (value : α) : Prop where
  status : 200 ≤ response.status ∧ response.status < 300
  result : ∃ octets body result, response.body = .ok octets ∧ Json.parse octets = some body ∧
    body.get? "error" = none ∧ body.get? "result" = some result ∧
    decoding.fromValue result = .ok value

theorem decodeResponse_eq_ok_iff {α : Type} {decoding : Decoding α} {response : Response}
    {value : α} : decodeResponse decoding response = .ok value ↔
      Carries decoding response value := by
  constructor
  · intro decoded
    cases read : response.body with
    | error error =>
        simp only [decodeResponse, read] at decoded
        cases decoded
    | ok octets =>
        simp only [decodeResponse, read, Except.mapError, Bind.bind, Except.bind] at decoded
        split at decoded
        · cases decoded
        next body parsed =>
          split at decoded
          · cases decoded
          next success =>
            split at decoded
            · cases decoded
            next noError =>
              split at decoded
              · cases decoded
              next result hasResult =>
                split at decoded
                · cases decoded
                next fromValue =>
                  cases decoded
                  exact ⟨by omega, octets, body, result, read, parsed, noError, hasResult,
                    fromValue⟩
  · rintro ⟨status, octets, body, result, read, parsed, noError, hasResult, decoded⟩
    have success : ¬ (response.status < 200 ∨ 300 ≤ response.status) := by omega
    simp only [decodeResponse, read, Except.mapError, Bind.bind, Except.bind, parsed,
      if_neg success, noError, hasResult, decoded]

end DpopRpc

/-- A client for one endpoint, with one bearer token and one key. -/
structure DpopRpc (ed25519 : Ed25519) (sha256 : Bytes → Octets 32) where
  endpoint : String
  bearerJwt : String
  signer : DpopSigner ed25519 sha256

namespace DpopRpc

variable {ed25519 : Ed25519} {sha256 : Bytes → Octets 32} {α : Type}

def requestOf (rpc : DpopRpc ed25519 sha256) (method : String) (params : Json) (id : UInt64)
    (proof : String) : Request where
  method := "POST"
  url := rpc.endpoint
  authorization := "DPoP " ++ rpc.bearerJwt
  dpop := proof
  body := .ofMembers [("jsonrpc", .string "2.0"), ("method", .string method), ("params", params),
    ("id", .int id.toNat)]

theorem body_requestOf (rpc : DpopRpc ed25519 sha256) (method : String) (params : Json)
    (id : UInt64) (proof : String) : (rpc.requestOf method params id proof).body =
      .object [("id", .int id.toNat), ("jsonrpc", .string "2.0"), ("method", .string method),
        ("params", params)] := by
  simp (disch := decide) only [requestOf, Json.ofMembers, List.foldl_cons, List.foldl_nil,
    Json.insertMember_nil, Json.insertMember_of_lt, Json.insertMember_of_gt]

/-- `mint_proof` reads the clock, and draws its octets unless the clock is before the epoch. -/
def mint (rpc : DpopRpc ed25519 sha256) (htm htu : String) :
    ExceptT TenzroEdgeError (Prog io) String := do
  let clock ← ExceptT.lift now
  let iat ← ExceptT.mk (.ret (issuedAt clock))
  let nonce ← ExceptT.lift draw
  return rpc.signer.proofAt htm htu iat nonce

def call (decoding : Decoding α) (rpc : DpopRpc ed25519 sha256) (method : String)
    (params : Json) : ExceptT TenzroEdgeError (Prog io) α := do
  let id ← ExceptT.lift takeId
  let htu := (← ExceptT.lift readHtu).getD rpc.endpoint
  let proof ← rpc.mint "POST" htu
  let response ← orFail (fun error => .sdk ("rpc transport: " ++ error))
    (send (rpc.requestOf method params id proof))
  ExceptT.mk (.ret (decodeResponse decoding response))

/-! ## A call, command by command -/

section

variable (decoding : Decoding α) (rpc : DpopRpc ed25519 sha256) (method : String) (params : Json)

/-- What a call returns when its request is answered. -/
def finish : Except String Response → Except TenzroEdgeError α
  | .error error => .error (.sdk ("rpc transport: " ++ error))
  | .ok response => decodeResponse decoding response

def sendRest (id : UInt64) (proof : String) : Prog io (Except TenzroEdgeError α) :=
  .call (.send (rpc.requestOf method params id proof)) fun reply => .ret (finish decoding reply)

def drawRest (id : UInt64) (htu : String) : Except TenzroEdgeError ℕ →
    Prog io (Except TenzroEdgeError α)
  | .error error => .ret (.error error)
  | .ok iat => .call .draw fun nonce =>
      sendRest decoding rpc method params id (rpc.signer.proofAt "POST" htu iat nonce)

theorem run_send_eq (id : UInt64) (proof : String) :
    (do
      let response ← orFail (fun error => .sdk ("rpc transport: " ++ error))
        (send (rpc.requestOf method params id proof))
      ExceptT.mk (.ret (decodeResponse decoding response)) :
        ExceptT TenzroEdgeError (Prog io) α).run =
      sendRest decoding rpc method params id proof := by
  apply congrArg (Prog.call (I := io) (.send (rpc.requestOf method params id proof)))
  funext reply
  cases reply with
  | error error => rfl
  | ok response => rfl

theorem run_draw_eq (id : UInt64) (htu : String) (issued : Except TenzroEdgeError ℕ) :
    ((do
      let iat ← ExceptT.mk (.ret issued)
      let nonce ← ExceptT.lift draw
      return rpc.signer.proofAt "POST" htu iat nonce :
        ExceptT TenzroEdgeError (Prog io) String) >>= fun proof => do
          let response ← orFail (fun error => .sdk ("rpc transport: " ++ error))
            (send (rpc.requestOf method params id proof))
          ExceptT.mk (.ret (decodeResponse decoding response)) :
        ExceptT TenzroEdgeError (Prog io) α).run =
      drawRest decoding rpc method params id htu issued := by
  cases issued with
  | error error => rfl
  | ok iat =>
      apply congrArg (Prog.call (I := io) .draw)
      funext nonce
      exact run_send_eq decoding rpc method params id _

theorem call_eq : (rpc.call decoding method params).run =
    .call .takeId fun id => .call .readHtu fun htu => .call .now fun clock =>
      drawRest decoding rpc method params id (Option.getD htu rpc.endpoint) (issuedAt clock) := by
  apply congrArg (Prog.call (I := io) .takeId)
  funext id
  apply congrArg (Prog.call (I := io) .readHtu)
  funext htu
  apply congrArg (Prog.call (I := io) .now)
  funext clock
  exact run_draw_eq decoding rpc method params id _ (issuedAt clock)

theorem finish_eq_ok_iff {decoding : Decoding α} {reply : Except String Response} {value : α} :
    finish decoding reply = .ok value ↔
      ∃ response, reply = .ok response ∧ Carries decoding response value := by
  cases reply with
  | error error => simp [finish]
  | ok response => simp [finish, decodeResponse_eq_ok_iff]

theorem run_send_of_drawRest {σ : Type} {serve : Handler io σ} {before after : σ} {id : UInt64}
    {htu : String} {issued : Except TenzroEdgeError ℕ} {value : α}
    (returned : run serve (drawRest decoding rpc method params id htu issued) before =
      (.ok value, after)) :
    ∃ proof drawn response,
      run serve (send (rpc.requestOf method params id proof)) drawn = (.ok response, after) ∧
        Carries decoding response value := by
  cases issued with
  | error error => cases returned
  | ok iat =>
      have finished := Prod.mk.inj returned
      rcases finish_eq_ok_iff.mp finished.1 with ⟨response, answered, carries⟩
      exact ⟨_, (serve .draw before).2, response, Prod.ext answered finished.2, carries⟩

/-- A call that returns a value has sent its request and got a response that carries the value. -/
theorem run_send_of_returned {σ : Type} {serve : Handler io σ} {state after : σ} {value : α}
    (returned : run serve (rpc.call decoding method params).run state = (.ok value, after)) :
    ∃ id proof before response,
      run serve (send (rpc.requestOf method params id proof)) before = (.ok response, after) ∧
        Carries decoding response value := by
  rw [call_eq] at returned
  rcases run_send_of_drawRest decoding rpc method params returned with
    ⟨proof, drawn, response, sent, carries⟩
  exact ⟨_, proof, drawn, response, sent, carries⟩

/-- The commands of a call: what it reads, and the request that it sends. -/
inductive Uses (rpc : DpopRpc ed25519 sha256) (method : String) (params : Json) : Cmd → Prop where
  | takeId : Uses rpc method params .takeId
  | readHtu : Uses rpc method params .readHtu
  | now : Uses rpc method params .now
  | draw : Uses rpc method params .draw
  | send (id : UInt64) (proof : String) :
      Uses rpc method params (.send (rpc.requestOf method params id proof))

theorem issues_drawRest (id : UInt64) (htu : String) (issued : Except TenzroEdgeError ℕ) :
    (drawRest decoding rpc method params id htu issued).Issues (Uses rpc method params) := by
  cases issued with
  | error error => exact trivial
  | ok iat => exact ⟨.draw, fun nonce => ⟨.send id _, fun _ => trivial⟩⟩

theorem issues_call : (rpc.call decoding method params).run.Issues (Uses rpc method params) := by
  rw [call_eq]
  refine ⟨.takeId, fun id => ⟨.readHtu, fun htu => ⟨.now, fun clock => ?_⟩⟩⟩
  exact issues_drawRest decoding rpc method params id _ _

end

end DpopRpc

end TenzroEdge
