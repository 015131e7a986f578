import TenzroEdge.Attester.Evidence
import TenzroEdge.ReceiptSink.Anchored

/-!
# Attestations and the log of the server

An attester and a sink hash the same canonical form of a receipt, in two modules that share no
code. So the digest of an attestation tells what a session of writes has submitted: a write
submits it exactly if its receipt has the canonical form of the attested one, unless two
canonical forms collide. What else enters the digest into the log, a client of the server that
is not a sink for instance, the session does not tell.
-/

namespace TenzroEdge.ReceiptSink

open Codec Interaction Interaction.Prog

/-- The two receipts have one digest only if they have one canonical form. -/
def Distinguishes {Receipt : Type} (serialise : Receipt → Except String Bytes)
    (blake3 : Bytes → Octets 32) (receipt other : Receipt) : Prop :=
  ∀ canon form, serialise receipt = .ok canon → serialise other = .ok form →
    blake3 canon = blake3 form → canon = form

section

variable {ed25519 : Auth.Ed25519} {sha256 : Bytes → Octets 32} {Receipt σ τ : Type}
  {texts : ErrorTexts} {serialise : Receipt → Except String Bytes} {blake3 : Bytes → Octets 32}
  {sink : TenzroReceiptSink ed25519 sha256} {serve : Handler DpopRpc.io σ}
  {log : σ → List (Octets 32)} {receipt : Receipt} {receipts : List Receipt} {state : σ}
  {digest : Octets 32}

/-- What a write of a session has to do with the attestation of a receipt; `final` is the state at
the end of the session. -/
structure Tells (serve : Handler DpopRpc.io σ) (serialise : Receipt → Except String Bytes)
    (blake3 : Bytes → Octets 32) (log : σ → List (Octets 32)) (final : σ) (receipt : Receipt)
    (digest : Octets 32) (written : Episode DpopRpc.io Receipt σ (Except SinkError Unit)) :
    Prop where
  /-- The write of a receipt with the same canonical form submits the digest of the attestation. -/
  submits : serialise written.key = serialise receipt → ∀ request,
    .send request ∈ written.issued → submittedDigest request = some digest
  /-- If it succeeds, the digest is in the log of a server that logs what it acknowledges. -/
  logged : LogsFirst serve log → serialise written.key = serialise receipt →
    written.result = .ok () → digest ∈ log final
  /-- No other write submits the digest. -/
  only : Distinguishes serialise blake3 receipt written.key → ∀ request,
    .send request ∈ written.issued → submittedDigest request = some digest →
      serialise written.key = serialise receipt

/-- Whatever a write sends, its receipt has a canonical form, and it submits the digest of that. -/
theorem submittedDigest_of_mem
    {written : Episode DpopRpc.io Receipt σ (Except SinkError Unit)} {request : DpopRpc.Request}
    (mem : written ∈ history serve (fun receipt => (write texts serialise blake3 sink receipt).run)
      receipts state)
    (sent : .send request ∈ written.issued) : ∃ canon, serialise written.key = .ok canon ∧
      submittedDigest request = some (blake3 canon) := by
  have same := eq_episode_of_mem mem
  rw [same] at sent
  cases serialised : serialise written.key with
  | error error =>
      simp only [episode, write_of_unserialisable serialised, issued_ret] at sent
      cases sent
  | ok canon =>
      refine ⟨canon, rfl, ?_⟩
      have uses := (issues_write serialised).of_mem sent
      cases uses with
      | send id proof => exact submittedDigest_requestOf sink.rpc (blake3 canon) id proof

/-- A write of a session submits the digest of an attestation exactly if its receipt has the
canonical form of the attested one. -/
theorem attestation_tells_written {sdk : Handler Attester.crypto τ} {debug : SdkError → String}
    {attester : Attester.TenzroAttester} {before after : τ} {att : Attester.Attestation}
    (attested : run sdk (attester.signReceipt debug serialise blake3 receipt).run before =
      (.ok att, after)) :
    let program := fun receipt => (write texts serialise blake3 sink receipt).run
    ∀ written ∈ history serve program receipts state, Tells serve serialise blake3 log
      (afterHistory serve program receipts state) receipt att.digest written := by
  intro program written mem
  rcases Attester.TenzroAttester.of_run_signReceipt attested with ⟨canon, serialised, signed⟩
  rcases Attester.TenzroAttester.of_run_signDigest signed with ⟨sig, -, rfl⟩
  constructor
  case submits =>
    intro same request sent
    rcases submittedDigest_of_mem mem sent with ⟨form, written, submitted⟩
    rw [same, serialised] at written
    cases written
    exact submitted
  case logged =>
    intro server same returned
    rcases (sound_of_mem server mem).logged returned with ⟨form, written, -, logged⟩
    rw [same, serialised] at written
    cases written
    exact logged
  case only =>
    intro distinguishes request sent submitted
    rcases submittedDigest_of_mem mem sent with ⟨form, written, submitsForm⟩
    have hashed : blake3 canon = blake3 form := Option.some.inj (submitted.symm.trans submitsForm)
    have same : canon = form := distinguishes canon form serialised written hashed
    rw [serialised, written, same]

end

/-! ## Two receipts of which one is attested -/

/-- The BLAKE3 digest of the JSON text of the string `stop`. -/
def digestOfStop : Octets 32 where
  bytes := [0x0c, 0x3c, 0x62, 0x5f, 0xf1, 0x35, 0x18, 0x59, 0xd1, 0x90, 0x38, 0x27,
    0x19, 0xca, 0x97, 0x13, 0xc0, 0x78, 0x86, 0x78, 0x16, 0xe7, 0x14, 0xb3,
    0xf3, 0x3a, 0xaa, 0x08, 0x20, 0xd9, 0x22, 0xfd]
  length_bytes := rfl

def blake3OfStop (bytes : Bytes) : Octets 32 :=
  if bytes = utf8 "\"stop\"" then digestOfStop else Attester.TenzroAttester.blake3Of07 bytes

def writeOfStop (receipt : String) : Prog DpopRpc.io (Except SinkError Unit) :=
  (write noTexts Attester.TenzroAttester.serialiseText blake3OfStop sinkOf42 receipt).run

def stepped : Episode DpopRpc.io String (List (Octets 32)) (Except SinkError Unit) :=
  episode signing writeOfStop "step" []

def stopped : Episode DpopRpc.io String (List (Octets 32)) (Except SinkError Unit) :=
  episode signing writeOfStop "stop" stepped.after

theorem distinguishes_stop :
    Distinguishes Attester.TenzroAttester.serialiseText blake3OfStop "step" "stop" := by
  intro canon form isCanon isForm same
  have canonOfStep : (Json.string "step").print = canon := Except.ok.inj isCanon
  have formOfStop : (Json.string "stop").print = form := Except.ok.inj isForm
  subst canonOfStep formOfStop
  have distinct : blake3OfStop (Json.string "step").print ≠
      blake3OfStop (Json.string "stop").print := by decide +kernel
  exact absurd same distinct

/-- The attested receipt is in the log, and the other write did not submit its digest. -/
theorem attestation_tells_written_stop :
    Attester.TenzroAttester.digestOf07 ∈ afterHistory signing writeOfStop ["step", "stop"] [] ∧
      ∀ request, .send request ∈ stopped.issued →
        submittedDigest request ≠ some Attester.TenzroAttester.digestOf07 := by
  have hashed : blake3OfStop (Json.string "step").print = Attester.TenzroAttester.digestOf07 := by
    decide +kernel
  have tells : ∀ written ∈ history signing writeOfStop ["step", "stop"] [],
      Tells signing Attester.TenzroAttester.serialiseText blake3OfStop id
        (afterHistory signing writeOfStop ["step", "stop"] []) "step"
        Attester.TenzroAttester.digestOf07 written :=
    attestation_tells_written (Attester.TenzroAttester.run_signReceipt_of_hashed hashed)
  constructor
  · exact (tells stepped List.mem_cons_self).logged logsFirst_signing rfl rfl
  · intro request sent submitted
    have member : stopped ∈ history signing writeOfStop ["step", "stop"] [] :=
      List.mem_cons_of_mem _ List.mem_cons_self
    have same := (tells stopped member).only distinguishes_stop request sent submitted
    have distinct : (Json.string "stop").print ≠ (Json.string "step").print := by decide +kernel
    exact distinct (Except.ok.inj same)

end TenzroEdge.ReceiptSink
