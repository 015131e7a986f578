import TenzroEdge.DpopRpc.Binding
import TenzroEdge.Interaction.History
import TenzroEdge.Interaction.Loop
import TenzroEdge.ReceiptSink.Sink

/-!
# Receipts and the log of the server

The server acknowledges a digest only once it has entered it into its log, and never
takes an entry out again; apart from this the world does as it likes, so that a request
or its reply may be lost at any point. Then a receipt whose write succeeds is in the log,
and a write that fails can be repeated unless the receipt has no canonical form.
-/

namespace TenzroEdge.ReceiptSink

open Codec Interaction Interaction.Prog

/-! ## The server -/

/-- The digest that a request submits for signing. -/
def submittedDigest (request : DpopRpc.Request) : Option (Octets 32) :=
  if request.body.getStr? "method" = some "tenzro_signMessage" then
    match request.body.get? "params" with
    | some (.array [message]) =>
        ((message.getStr? "message_hex").bind hexDecode).bind (Octets.ofBytes? 32)
    | _ => none
  else none

/-- A result with a signature, as an object or as the array of its fields. -/
inductive HasSignature : Json → Prop where
  | object {members : List (String × Json)} {signature : String}
      (member : (Json.object members).getStr? "signature" = some signature) :
      HasSignature (.object members)
  | array (signature : String) {rest : List Json} (atMostTwo : rest.length ≤ 2)
      (strings : ∀ value ∈ rest, ∃ text, value = .string text) :
      HasSignature (.array (.string signature :: rest))

/-- A response that acknowledges what was submitted. -/
structure Acknowledges (response : DpopRpc.Response) : Prop where
  status : 200 ≤ response.status ∧ response.status < 300
  signed : ∃ octets body result, response.body = .ok octets ∧ Json.parse octets = some body ∧
    body.get? "error" = none ∧ body.get? "result" = some result ∧ HasSignature result

/-- The server logs a digest before it acknowledges it, and keeps what it has logged. -/
structure LogsFirst {σ : Type} (serve : Handler DpopRpc.io σ) (log : σ → List (Octets 32)) :
    Prop where
  logged : ∀ request state response digest, submittedDigest request = some digest →
    (run serve (DpopRpc.send request) state).1 = .ok response → Acknowledges response →
      digest ∈ log (run serve (DpopRpc.send request) state).2
  kept : ∀ cmd state digest, digest ∈ log state → digest ∈ log (serve cmd state).2

/-- What is in the log after one program of a sequence is in the log at the end. -/
theorem LogsFirst.kept_afterHistory {σ κ α : Type} {serve : Handler DpopRpc.io σ}
    {log : σ → List (Octets 32)} (server : LogsFirst serve log) {program : κ → Prog DpopRpc.io α}
    {keys : List κ} {state : σ} {found : Episode DpopRpc.io κ σ α} {digest : Octets 32}
    (mem : found ∈ history serve program keys state) (logged : digest ∈ log found.after) :
    digest ∈ log (afterHistory serve program keys state) := by
  have preserved : ∀ key world, digest ∈ log world →
      digest ∈ log (run serve (program key) world).2 := by
    intro key world holds
    exact run_invariant serve (fun cmd state => server.kept cmd state digest) (program key) holds
  exact afterHistory_of_mem preserved mem logged

/-! ## Replies -/

theorem strings_of_defaulted {rest : List Json} (atMostTwo : rest.length ≤ 2)
    {publicKey algorithm : String}
    (first : SignMessageResult.defaulted rest[0]? = some publicKey)
    (second : SignMessageResult.defaulted rest[1]? = some algorithm) :
    ∀ value ∈ rest, ∃ text, value = .string text := by
  intro value mem
  rcases List.getElem?_of_mem mem with ⟨position, found⟩
  have within : position < rest.length := (List.getElem?_eq_some_iff.mp found).1
  match position with
  | 0 =>
      rw [found] at first
      exact ⟨publicKey, Json.eq_string_of_asStr first⟩
  | 1 =>
      rw [found] at second
      exact ⟨algorithm, Json.eq_string_of_asStr second⟩
  | later + 2 => omega

theorem hasSignature_of_ofValue {value : Json} {result : SignMessageResult}
    (decoded : SignMessageResult.ofValue value = some result) : HasSignature value := by
  unfold SignMessageResult.ofValue at decoded
  split at decoded
  next members =>
    rcases Option.bind_eq_some_iff.mp decoded with ⟨signature, member, -⟩
    exact .object member
  next first rest =>
    split at decoded
    case isTrue tooMany => cases decoded
    case isFalse few =>
      have atMostTwo : rest.length ≤ 2 := not_lt.mp few
      rcases Option.bind_eq_some_iff.mp decoded with ⟨signature, isString, others⟩
      rcases Option.bind_eq_some_iff.mp others with ⟨publicKey, second, last⟩
      rcases Option.bind_eq_some_iff.mp last with ⟨algorithm, third, -⟩
      rw [Json.eq_string_of_asStr isString]
      exact .array signature atMostTwo (strings_of_defaulted atMostTwo second third)
  · cases decoded

theorem acknowledges_of_carries {texts : ErrorTexts} {response : DpopRpc.Response}
    {result : SignMessageResult}
    (carries : DpopRpc.Carries (signMessageDecoding texts) response result) :
    Acknowledges response := by
  rcases carries.result with ⟨octets, body, value, read, parsed, noError, hasResult, decoded⟩
  refine ⟨carries.status, octets, body, value, read, parsed, noError, hasResult, ?_⟩
  cases result : SignMessageResult.ofValue value with
  | none =>
      simp only [signMessageDecoding, result] at decoded
      cases decoded
  | some signed => exact hasSignature_of_ofValue result

section

variable {ed25519 : Auth.Ed25519} {sha256 : Bytes → Octets 32}

theorem submittedDigest_requestOf (rpc : DpopRpc ed25519 sha256) (digest : Octets 32) (id : UInt64)
    (proof : String) :
    submittedDigest (rpc.requestOf "tenzro_signMessage" (messageParams (hexEncode digest.bytes)) id
      proof) = some digest := by
  have params : messageParams (hexEncode digest.bytes) =
      .array [.object [("message_hex", .string (hexEncode digest.bytes))]] := by
    simp only [messageParams, Json.ofMembers, List.foldl_cons, List.foldl_nil,
      Json.insertMember_nil]
  simp [submittedDigest, DpopRpc.body_requestOf, Json.getStr?, params]

end

/-! ## One write -/

section

variable {ed25519 : Auth.Ed25519} {sha256 : Bytes → Octets 32} {Receipt σ : Type}
  {texts : ErrorTexts} {serialise : Receipt → Except String Bytes} {blake3 : Bytes → Octets 32}
  {sink : TenzroReceiptSink ed25519 sha256} {receipt : Receipt} {canon : Bytes}
  {serve : Handler DpopRpc.io σ} {log : σ → List (Octets 32)}

theorem write_of_unserialisable {error : String}
    (unserialisable : serialise receipt = .error error) :
    (write texts serialise blake3 sink receipt).run =
      .ret (.error (.rejected ("canonicalise receipt: " ++ error))) := by
  simp only [write, unserialisable]
  rfl

theorem write_of_serialised (serialised : serialise receipt = .ok canon) :
    (write texts serialise blake3 sink receipt).run =
      (sink.rpc.call (signMessageDecoding texts) "tenzro_signMessage"
        (messageParams (hexEncode (blake3 canon).bytes))).run >>= fun
          | .ok _ => .ret (.ok ())
          | .error error =>
              .ret (.error (.transient ("tenzro_signMessage: " ++ error.display))) := by
  simp only [write, serialised]
  change (orFail _ _ >>= _).run = _
  rw [run_orFail_bind]
  congr 1
  funext result
  cases result with
  | ok signed => rfl
  | error error => rfl

theorem issues_write (serialised : serialise receipt = .ok canon) :
    (write texts serialise blake3 sink receipt).run.Issues (sink.rpc.Uses "tenzro_signMessage"
      (messageParams (hexEncode (blake3 canon).bytes))) := by
  rw [write_of_serialised serialised]
  apply (DpopRpc.issues_call _ _ _ _).bind
  intro result
  cases result with
  | ok signed => exact trivial
  | error error => exact trivial

theorem mem_log_of_written (server : LogsFirst serve log) {before after : σ}
    (written : run serve (write texts serialise blake3 sink receipt).run before =
      (.ok (), after)) : ∃ canon, serialise receipt = .ok canon ∧ blake3 canon ∈ log after := by
  cases serialised : serialise receipt with
  | error error =>
      rw [write_of_unserialisable serialised] at written
      cases written
  | ok canon =>
      refine ⟨canon, rfl, ?_⟩
      rw [write_of_serialised serialised, run_bind] at written
      rcases called : run serve (sink.rpc.call (signMessageDecoding texts) "tenzro_signMessage"
        (messageParams (hexEncode (blake3 canon).bytes))).run before with ⟨result, world⟩
      rw [called] at written
      cases result with
      | error error => cases written
      | ok signed =>
          cases written
          rcases DpopRpc.run_send_of_returned _ _ _ _ called with
            ⟨id, proof, earlier, response, sent, carries⟩
          have logged := server.logged _ earlier response _
            (submittedDigest_requestOf sink.rpc (blake3 canon) id proof) (congrArg Prod.fst sent)
            (acknowledges_of_carries carries)
          rwa [sent] at logged

theorem result_write_of_serialised (serialised : serialise receipt = .ok canon) (before : σ) :
    (run serve (write texts serialise blake3 sink receipt).run before).1 = .ok () ∨
      ∃ message, (run serve (write texts serialise blake3 sink receipt).run before).1 =
        .error (.transient message) := by
  rw [write_of_serialised serialised, run_bind]
  cases (run serve (sink.rpc.call (signMessageDecoding texts) "tenzro_signMessage"
    (messageParams (hexEncode (blake3 canon).bytes))).run before).1 with
  | ok signed => exact .inl rfl
  | error error => exact .inr ⟨_, rfl⟩

end

/-! ## Sequences of writes -/

section

variable {ed25519 : Auth.Ed25519} {sha256 : Bytes → Octets 32} {Receipt σ : Type}

/-- What holds of a write of a sequence; `final` is the state at the end of the sequence. -/
structure Sound (serialise : Receipt → Except String Bytes) (blake3 : Bytes → Octets 32)
    (log : σ → List (Octets 32)) (final : σ)
    (written : Episode DpopRpc.io Receipt σ (Except SinkError Unit)) : Prop where
  /-- A receipt that was written is in the log, then and later. -/
  logged : written.result = .ok () → ∃ canon, serialise written.key = .ok canon ∧
    blake3 canon ∈ log written.after ∧ blake3 canon ∈ log final
  /-- Only a receipt without a canonical form is rejected, and nothing is sent for it. -/
  rejected : ∀ message, written.result = .error (.rejected message) →
    (∃ error, serialise written.key = .error error) ∧ written.issued = []
  /-- Every other outcome is transient. -/
  retryable : written.result = .ok () ∨
    (∃ message, written.result = .error (.rejected message)) ∨
      ∃ message, written.result = .error (.transient message)

def isTransient : Except SinkError Unit → Bool
  | .error (.transient _) => true
  | _ => false

/-- Submit a receipt until it is written, for the given number of attempts at most. -/
def submit (texts : ErrorTexts) (serialise : Receipt → Except String Bytes)
    (blake3 : Bytes → Octets 32) (sink : TenzroReceiptSink ed25519 sha256)
    (submission : Receipt × ℕ) : Prog DpopRpc.io (Option (Except SinkError Unit)) :=
  retry isTransient (write texts serialise blake3 sink submission.1).run submission.2

/-- What holds of a receipt with a canonical form that is submitted again and again. -/
structure Persistent (serialise : Receipt → Except String Bytes) (blake3 : Bytes → Octets 32)
    (log : σ → List (Octets 32)) (final : σ)
    (submitted : Episode DpopRpc.io (Receipt × ℕ) σ (Option (Except SinkError Unit))) : Prop where
  /-- The caller stops because the receipt is in the log, unless the attempts are used up. -/
  settled : ∀ canon result, serialise submitted.key.1 = .ok canon →
    submitted.result = some result → result = .ok () ∧ blake3 canon ∈ log final
  /-- All attempts submit one digest. -/
  sameDigest : ∀ canon request, serialise submitted.key.1 = .ok canon →
    .send request ∈ submitted.issued → submittedDigest request = some (blake3 canon)

variable {texts : ErrorTexts} {serialise : Receipt → Except String Bytes}
  {blake3 : Bytes → Octets 32} {sink : TenzroReceiptSink ed25519 sha256}
  {serve : Handler DpopRpc.io σ} {log : σ → List (Octets 32)}

theorem sound_of_mem (server : LogsFirst serve log) {receipts : List Receipt} {state : σ}
    {written : Episode DpopRpc.io Receipt σ (Except SinkError Unit)}
    (mem : written ∈ history serve (fun receipt => (write texts serialise blake3 sink receipt).run)
      receipts state) :
    Sound serialise blake3 log (afterHistory serve
      (fun receipt => (write texts serialise blake3 sink receipt).run) receipts state) written := by
  have same := eq_episode_of_mem mem
  constructor
  case logged =>
    intro returned
    have ran : run serve (write texts serialise blake3 sink written.key).run written.before =
        (.ok (), written.after) := by
      rw [same] at returned ⊢
      exact Prod.ext returned rfl
    rcases mem_log_of_written server ran with ⟨canon, serialised, logged⟩
    exact ⟨canon, serialised, logged, server.kept_afterHistory mem logged⟩
  case rejected =>
    intro message returned
    cases serialised : serialise written.key with
    | error error =>
        refine ⟨⟨error, rfl⟩, ?_⟩
        rw [same]
        simp only [episode, write_of_unserialisable serialised, issued_ret]
    | ok canon =>
        rw [same] at returned
        rcases result_write_of_serialised serialised written.before with ok | ⟨other, transient⟩
        · cases ok.symm.trans returned
        · cases transient.symm.trans returned
  case retryable =>
    rw [same]
    cases serialised : serialise written.key with
    | error error =>
        right
        left
        simp only [episode, write_of_unserialisable serialised]
        exact ⟨_, rfl⟩
    | ok canon =>
        rcases result_write_of_serialised serialised written.before with ok | transient
        · exact .inl ok
        · exact .inr (.inr transient)

theorem persistent_of_mem (server : LogsFirst serve log) {submissions : List (Receipt × ℕ)}
    {state : σ} {submitted : Episode DpopRpc.io (Receipt × ℕ) σ (Option (Except SinkError Unit))}
    (mem : submitted ∈ history serve (submit texts serialise blake3 sink) submissions state) :
    Persistent serialise blake3 log
      (afterHistory serve (submit texts serialise blake3 sink) submissions state) submitted := by
  have same := eq_episode_of_mem mem
  constructor
  case settled =>
    intro canon result serialised finished
    have ran : run serve (submit texts serialise blake3 sink submitted.key) submitted.before =
        (some result, submitted.after) := by
      rw [same] at finished ⊢
      exact Prod.ext finished rfl
    rcases run_retry_some ran with ⟨settled, world, attempted⟩
    have outcome : (run serve (write texts serialise blake3 sink submitted.key.1).run world).1 =
        .ok () ∨ ∃ message, (run serve (write texts serialise blake3 sink submitted.key.1).run
          world).1 = .error (.transient message) := result_write_of_serialised serialised world
    rw [attempted] at outcome
    rcases outcome with rfl | ⟨message, rfl⟩
    · refine ⟨rfl, ?_⟩
      rcases mem_log_of_written server attempted with ⟨written, sameReceipt, logged⟩
      rw [serialised] at sameReceipt
      cases sameReceipt
      exact server.kept_afterHistory mem logged
    · cases settled
  case sameDigest =>
    intro canon request serialised sent
    rw [same] at sent
    have uses := (Issues_retry (issues_write serialised) submitted.key.2).of_mem sent
    cases uses with
    | send id proof => exact submittedDigest_requestOf sink.rpc (blake3 canon) id proof

/-- No write falsely reports success and none gives up on a receipt that has a canonical form; a
caller that submits such a receipt until it is written only ever submits its digest, and stops once
that is in the log. -/
theorem write_loses_nothing (server : LogsFirst serve log) :
    (∀ receipts state, ∀ written ∈ history serve
        (fun receipt => (write texts serialise blake3 sink receipt).run) receipts state,
      Sound serialise blake3 log (afterHistory serve
        (fun receipt => (write texts serialise blake3 sink receipt).run) receipts state) written) ∧
    (∀ submissions state, ∀ submitted ∈ history serve (submit texts serialise blake3 sink)
        submissions state,
      Persistent serialise blake3 log
        (afterHistory serve (submit texts serialise blake3 sink) submissions state) submitted) := by
  constructor
  · intro receipts state written mem
    exact sound_of_mem server mem
  · intro submissions state submitted mem
    exact persistent_of_mem server mem

end

/-! ## A server that signs what is submitted to it -/

def signedReply : DpopRpc.Response where
  status := 200
  body := .ok (Json.object [("jsonrpc", .string "2.0"),
    ("result", .object [("signature", .string "00")])]).print

def signing : Handler DpopRpc.io (List (Octets 32))
  | .takeId, log => ((1 : UInt64), log)
  | .readHtu, log => (none, log)
  | .now, log => (Auth.clockOf42, log)
  | .draw, log => (Auth.nonceOf42, log)
  | .send request, log => (.ok signedReply,
      match submittedDigest request with
      | some digest => digest :: log
      | none => log)

theorem logsFirst_signing : LogsFirst signing id := by
  constructor
  · intro request log response digest submitted answered acknowledges
    have after : (run signing (DpopRpc.send request) log).2 = digest :: log := by
      change (match submittedDigest request with | some digest => digest :: log | none => log) = _
      rw [submitted]
    rw [after]
    exact List.mem_cons_self
  · intro cmd log digest mem
    cases cmd with
    | takeId => exact mem
    | readHtu => exact mem
    | now => exact mem
    | draw => exact mem
    | send request =>
        change digest ∈ match submittedDigest request with
          | some digest => digest :: log
          | none => log
        cases submittedDigest request with
        | none => exact mem
        | some submitted => exact List.mem_cons_of_mem _ mem

def noTexts : ErrorTexts where
  value _ := ""
  decode _ := ""
  status _ := ""

/-- Receipts that are JSON objects; nothing else can be serialised. -/
def serialiseObject : Json → Except String Bytes
  | .object members => .ok (Json.object members).print
  | _ => .error "key must be a string"

/-- The BLAKE3 digest of the JSON text of the empty object. -/
def digestOfEmptyObject : Octets 32 where
  bytes := [0x6e, 0x46, 0xdd, 0x10, 0xde, 0xfc, 0x9b, 0x56, 0xc2, 0x9a, 0x6e, 0xc5,
    0x6b, 0x50, 0x8c, 0x21, 0xf5, 0x4c, 0x08, 0x19, 0x21, 0x94, 0xe4, 0xdf,
    0x25, 0xbf, 0x36, 0xf0, 0xc9, 0xc3, 0xc2, 0x79]
  length_bytes := rfl

def sinkOf42 : TenzroReceiptSink Auth.schemeOf42 Auth.sha256Of42 where
  id := "sink"
  rpc := DpopRpc.clientOf42 "one"

def writtenObject : Episode DpopRpc.io Json (List (Octets 32)) (Except SinkError Unit) :=
  episode signing (fun receipt =>
    (write noTexts serialiseObject (fun _ => digestOfEmptyObject) sinkOf42 receipt).run)
      (.object []) []

theorem write_loses_nothing_writtenObject : writtenObject.result = .ok () ∧
    Sound serialiseObject (fun _ => digestOfEmptyObject) id writtenObject.after writtenObject :=
  ⟨rfl, (write_loses_nothing logsFirst_signing).1 [Json.object []] [] _ (List.mem_singleton_self _)⟩

end TenzroEdge.ReceiptSink
