import TenzroEdge.Codec.JsonRoundTrip
import TenzroEdge.Attester.Attest

/-!
# What attestations are evidence of

The SDK is taken to check signatures correctly: it finds one valid exactly when it is
by the given public key over the given message. An attestation that an attester signs
then verifies, its proof carries what the SDK has signed, and no other digest or kind
verifies with the same proof. What an accepted attestation shows is less than that the
attester's key has signed it: the public key is part of the proof, so that whoever owns
a key can attest to anything.
-/

namespace TenzroEdge.Attester

open Codec Interaction Interaction.Prog

/-! ## Proofs -/

/-- Reading a proof inverts printing it, whatever characters the two texts contain. -/
theorem TenzroProof.fromSlice_toVec (proof : TenzroProof) : fromSlice proof.toVec = some proof := by
  rw [fromSlice, toVec, RawJson.parse_print, Option.bind_some]
  simp [Json.raw, Json.rawMembers, ofRaw, addMember, setOnce, string?,
    RawJson.text?_escape_utf8]

namespace TenzroAttester

section

variable {σ Receipt : Type} {serve : Handler crypto σ} {debug : SdkError → String}
  {decodeError : Bytes → String} {attester : TenzroAttester} {digest : Octets 32}
  {att : Attestation} {state : σ}

/-! ## Verification -/

theorem verify_of_kind (mismatch : att.kind ≠ "tenzro") :
    (attester.verify debug decodeError att).run = .ret (.error (.failed
      ("kind mismatch: expected 'tenzro', got '" ++ att.kind ++ "'"))) := by
  rw [verify, if_pos mismatch]
  rfl

theorem verify_of_undecodable (kind : att.kind = "tenzro")
    (undecodable : TenzroProof.fromSlice att.proof = none) :
    (attester.verify debug decodeError att).run =
      .ret (.error (.failed ("decode proof: " ++ decodeError att.proof))) := by
  rw [verify, if_neg (not_not.mpr kind), undecodable]
  rfl

/-- With a proof that decodes, the SDK decides, and it is asked about the proof's own key. -/
theorem run_verify_of_decodes {proof : TenzroProof} (kind : att.kind = "tenzro")
    (decodes : TenzroProof.fromSlice att.proof = some proof) :
    (run serve (attester.verify debug decodeError att).run state).1 =
      match (serve (.verifySignature proof.publicKey att.digest proof.signature) state).1 with
      | .error error => .error (mapSdk debug error)
      | .ok result => if result.valid then .ok () else .error .invalid := by
  have asked : run serve (verifySignature proof.publicKey att.digest proof.signature) state =
      serve (.verifySignature proof.publicKey att.digest proof.signature) state := rfl
  rw [verify, if_neg (not_not.mpr kind), decodes]
  rcases replied : serve (.verifySignature proof.publicKey att.digest proof.signature) state with
    ⟨reply, after⟩
  rw [replied] at asked
  cases reply with
  | error error => exact congrArg Prod.fst (run_orFail_bind_of_error serve asked)
  | ok result =>
      refine (congrArg Prod.fst (run_orFail_bind_of_ok serve asked)).trans ?_
      rcases result with ⟨valid⟩
      cases valid with
      | false => rfl
      | true => rfl

theorem run_verify_eq_ok_iff :
    (run serve (attester.verify debug decodeError att).run state).1 = .ok () ↔
      att.kind = "tenzro" ∧ ∃ proof, TenzroProof.fromSlice att.proof = some proof ∧
        ∃ result, (serve (.verifySignature proof.publicKey att.digest proof.signature) state).1 =
          .ok result ∧ result.valid = true := by
  by_cases kind : att.kind = "tenzro"
  · cases decodes : TenzroProof.fromSlice att.proof with
    | none => simp [verify_of_undecodable kind decodes]
    | some proof =>
        rw [run_verify_of_decodes kind decodes]
        cases replied :
            (serve (.verifySignature proof.publicKey att.digest proof.signature) state).1 with
        | error error => simp [replied]
        | ok result =>
            rcases result with ⟨valid⟩
            cases valid with
            | false =>
                constructor
                · rintro ⟨⟩
                · rintro ⟨-, _, found, _, answered, valid⟩
                  cases found
                  cases replied.symm.trans answered
                  cases valid
            | true =>
                constructor
                · intro _
                  exact ⟨kind, proof, rfl, _, replied, rfl⟩
                · intro _
                  rfl
  · simp [verify_of_kind kind, kind]

/-! ## Signing -/

theorem of_run_signDigest {after : σ}
    (signed : run serve (attester.signDigest debug digest).run state = (.ok att, after)) :
    ∃ sig, (serve (.signMessage attester.privateKeyHex digest) state).1 = .ok sig ∧
      att = { kind := "tenzro", digest,
              proof := TenzroProof.toVec ⟨sig.signature, sig.publicKey⟩ } := by
  have asked : run serve (signMessage attester.privateKeyHex digest) state =
      serve (.signMessage attester.privateKeyHex digest) state := rfl
  rcases replied : serve (.signMessage attester.privateKeyHex digest) state with ⟨reply, after⟩
  rw [replied] at asked
  rw [signDigest] at signed
  cases reply with
  | error error =>
      rw [run_orFail_bind_of_error serve asked] at signed
      cases signed
  | ok sig =>
      rw [run_orFail_bind_of_ok serve asked] at signed
      refine ⟨sig, rfl, ?_⟩
      cases signed
      rfl

theorem of_run_signReceipt {serialise : Receipt → Except String Bytes}
    {blake3 : Bytes → Octets 32} {receipt : Receipt} {after : σ}
    (signed : run serve (attester.signReceipt debug serialise blake3 receipt).run state =
      (.ok att, after)) :
    ∃ canon, serialise receipt = .ok canon ∧
      run serve (attester.signDigest debug (blake3 canon)).run state = (.ok att, after) := by
  cases serialised : serialise receipt with
  | error error =>
      rw [signReceipt, serialised] at signed
      cases signed
  | ok canon =>
      rw [signReceipt, serialised] at signed
      exact ⟨canon, rfl, signed⟩

end

/-! ## Evidence -/

/-- What an attestation is, made for a digest in a given state. -/
structure Sealed {σ : Type} (serve : Handler crypto σ) (debug : SdkError → String)
    (decodeError : Bytes → String) (attester : TenzroAttester) (digest : Octets 32) (state : σ)
    (att : Attestation) : Prop where
  digest_eq : att.digest = digest
  /-- Its proof decodes to the two texts that the SDK has returned. -/
  carries : ∃ sig, (serve (.signMessage attester.privateKeyHex digest) state).1 = .ok sig ∧
    TenzroProof.fromSlice att.proof = some ⟨sig.signature, sig.publicKey⟩
  verifies : ∀ later, (run serve (attester.verify debug decodeError att).run later).1 = .ok ()
  otherDigest : ∀ other later, other ≠ att.digest →
    (run serve (attester.verify debug decodeError { att with digest := other }).run later).1 ≠
      .ok ()
  otherKind : ∀ other later, other ≠ att.kind →
    (run serve (attester.verify debug decodeError { att with kind := other }).run later).1 ≠ .ok ()

section

variable {σ Receipt : Type} {serve : Handler crypto σ}
  {signedBy : String → Octets 32 → String → Prop}

theorem sealed_of_signDigest
    (signs : ∀ key message state sig, (serve (.signMessage key message) state).1 = .ok sig →
      signedBy sig.publicKey message sig.signature)
    (answers : ∀ key message signature state, ∃ result,
      (serve (.verifySignature key message signature) state).1 = .ok result ∧
        (result.valid = true ↔ signedBy key message signature))
    (oneMessage : ∀ key message other signature, signedBy key message signature →
      signedBy key other signature → other = message)
    {debug : SdkError → String} {decodeError : Bytes → String} {attester : TenzroAttester}
    {digest : Octets 32} {state after : σ} {att : Attestation}
    (signed : run serve (attester.signDigest debug digest).run state = (.ok att, after)) :
    Sealed serve debug decodeError attester digest state att := by
  rcases of_run_signDigest signed with ⟨sig, replied, rfl⟩
  have made := signs _ _ _ _ replied
  constructor
  case digest_eq => rfl
  case carries => exact ⟨sig, replied, TenzroProof.fromSlice_toVec _⟩
  case verifies =>
    intro later
    rcases answers sig.publicKey digest sig.signature later with ⟨result, answered, valid⟩
    exact run_verify_eq_ok_iff.mpr
      ⟨rfl, _, TenzroProof.fromSlice_toVec _, result, answered, valid.mpr made⟩
  case otherDigest =>
    intro other later distinct accepted
    rcases run_verify_eq_ok_iff.mp accepted with ⟨-, proof, decodes, result, answered, valid⟩
    cases (TenzroProof.fromSlice_toVec _).symm.trans decodes
    rcases answers sig.publicKey other sig.signature later with ⟨again, answeredAgain, exactly⟩
    cases answered.symm.trans answeredAgain
    apply distinct
    exact oneMessage _ _ _ _ made (exactly.mp valid)
  case otherKind =>
    intro other later distinct accepted
    apply distinct
    exact (run_verify_eq_ok_iff.mp accepted).1

end

/-! ## One key with its real values -/

/-- The private key of 32 times the octet 7. -/
def privateKeyOf07 : String := "0707070707070707070707070707070707070707070707070707070707070707"

def publicKeyOf07 : String := "ea4a6c63e29c520abef5507b132ec5f9954776aebebe7b92421eea691446d22c"

/-- The BLAKE3 digest of the JSON text of the string `step`. -/
def digestOf07 : Octets 32 where
  bytes := [0xcc, 0xc7, 0x19, 0x88, 0xc6, 0x49, 0x0b, 0x74, 0xfd, 0x3a, 0x76, 0x5e,
    0xa3, 0x71, 0x07, 0x34, 0x94, 0x8b, 0x4c, 0x12, 0x6e, 0x1e, 0x17, 0xad,
    0x73, 0x67, 0x6c, 0xda, 0xe9, 0x02, 0x93, 0xd1]
  length_bytes := rfl

/-- The Ed25519 signature of that key over that digest. -/
def signatureOf07 : String :=
  "66b10bc52ae58d55023f13a08f50e42ecdf04a3882781477d2fc3e3d23c7ecdb" ++
    "ed2699f0e56ac753682ed026312ea649277e8b8711761af3fc8d4167362d7100"

/-- The key has signed the digest, and nothing else has been signed. -/
def SignedBy07 (key : String) (message : Octets 32) (signature : String) : Prop :=
  key = publicKeyOf07 ∧ message = digestOf07 ∧ signature = signatureOf07

instance (key : String) (message : Octets 32) (signature : String) :
    Decidable (SignedBy07 key message signature) := inferInstanceAs (Decidable (_ ∧ _))

def signOf07 (key : String) (message : Octets 32) : Except SdkError MessageSignature :=
  if key = privateKeyOf07 ∧ message = digestOf07 then .ok ⟨signatureOf07, publicKeyOf07⟩
  else .error .timeout

def sdkOf07 : Handler crypto Unit := fun cmd state =>
  match cmd with
  | .signMessage key message => (signOf07 key message, state)
  | .verifySignature key message signature =>
      (.ok ⟨decide (SignedBy07 key message signature)⟩, state)

theorem sdkOf07_answers (key : String) (message : Octets 32) (signature : String) (state : Unit) :
    ∃ result, (sdkOf07 (.verifySignature key message signature) state).1 = .ok result ∧
      (result.valid = true ↔ SignedBy07 key message signature) :=
  ⟨_, rfl, decide_eq_true_iff⟩

/-- A hash that agrees with BLAKE3 on the JSON text of the string `step`. -/
def blake3Of07 (bytes : Bytes) : Octets 32 :=
  if bytes = utf8 "\"step\"" then digestOf07 else .replicate 32 0

def attestationOf07 : Attestation where
  kind := "tenzro"
  digest := digestOf07
  proof := TenzroProof.toVec ⟨signatureOf07, publicKeyOf07⟩

theorem sdkOf07_signs (key : String) (message : Octets 32) (state : Unit) (sig : MessageSignature)
    (replied : (sdkOf07 (.signMessage key message) state).1 = .ok sig) :
    SignedBy07 sig.publicKey message sig.signature := by
  change signOf07 key message = .ok sig at replied
  unfold signOf07 at replied
  split at replied
  case isTrue known =>
    cases replied
    exact ⟨rfl, known.2, rfl⟩
  case isFalse unknown => cases replied

theorem sdkOf07_answersRightly (key : String) (message : Octets 32) (signature : String)
    (state : Unit) (result : VerifyResult)
    (answered : (sdkOf07 (.verifySignature key message signature) state).1 = .ok result) :
    result.valid = true ↔ SignedBy07 key message signature := by
  rcases sdkOf07_answers key message signature state with ⟨again, answeredAgain, exactly⟩
  cases answered.symm.trans answeredAgain
  exact exactly

theorem run_verify_07 (attester : TenzroAttester) :
    (run sdkOf07 (attester.verify (fun _ => "SdkError") (fun _ => "expected value")
      attestationOf07).run ()).1 = .ok () := by
  have signed : SignedBy07 publicKeyOf07 digestOf07 signatureOf07 := ⟨rfl, rfl, rfl⟩
  exact run_verify_eq_ok_iff.mpr
    ⟨rfl, _, TenzroProof.fromSlice_toVec _, _, rfl, decide_eq_true signed⟩

def serialiseText (receipt : String) : Except String Bytes := .ok (Json.string receipt).print

theorem run_signReceipt_of_hashed {blake3 : Bytes → Octets 32}
    (hashed : blake3 (Json.string "step").print = digestOf07) :
    run sdkOf07 (signReceipt (fun _ => "SdkError") ⟨"edge", privateKeyOf07⟩ serialiseText blake3
      "step").run () = (.ok attestationOf07, ()) := by
  have replied : run sdkOf07 (signMessage privateKeyOf07 digestOf07) () =
      (.ok ⟨signatureOf07, publicKeyOf07⟩, ()) := rfl
  change run sdkOf07 (signDigest (fun _ => "SdkError") ⟨"edge", privateKeyOf07⟩
    (blake3 (Json.string "step").print)).run () = _
  rw [hashed, signDigest, run_orFail_bind_of_ok sdkOf07 replied]
  rfl

theorem run_signReceipt_07 :
    run sdkOf07 (signReceipt (fun _ => "SdkError") ⟨"edge", privateKeyOf07⟩ serialiseText blake3Of07
      "step").run () = (.ok attestationOf07, ()) :=
  run_signReceipt_of_hashed (by decide +kernel)

/-! ## The key in the proof -/

section

variable {σ : Type} {serve : Handler crypto σ}

/-- An accepted attestation carries a signature over its digest by the public key in its own proof,
and every such attestation is accepted, whoever owns that key. It carries a signature by the
attester's key if that is the one in the proof. -/
theorem verify_authenticates_embeddedKey {signedBy : String → Octets 32 → String → Prop}
    (answersRightly : ∀ key message signature state result,
      (serve (.verifySignature key message signature) state).1 = .ok result →
        (result.valid = true ↔ signedBy key message signature))
    (publicKeyOf : String → String) (debug : SdkError → String) (decodeError : Bytes → String)
    (attester : TenzroAttester) (att : Attestation) (state : σ) :
    ((run serve (attester.verify debug decodeError att).run state).1 = .ok () →
      att.kind = "tenzro" ∧ ∃ proof, TenzroProof.fromSlice att.proof = some proof ∧
        signedBy proof.publicKey att.digest proof.signature ∧
        (proof.publicKey = publicKeyOf attester.privateKeyHex →
          signedBy (publicKeyOf attester.privateKeyHex) att.digest proof.signature)) ∧
    ∀ proof, att.kind = "tenzro" → TenzroProof.fromSlice att.proof = some proof →
      signedBy proof.publicKey att.digest proof.signature →
      (∃ result, (serve (.verifySignature proof.publicKey att.digest proof.signature) state).1 =
        .ok result) →
      (run serve (attester.verify debug decodeError att).run state).1 = .ok () := by
  rw [run_verify_eq_ok_iff]
  constructor
  · rintro ⟨kind, proof, decodes, result, answered, valid⟩
    have signed := (answersRightly _ _ _ _ _ answered).mp valid
    refine ⟨kind, proof, decodes, signed, ?_⟩
    intro own
    rw [← own]
    exact signed
  · rintro proof kind decodes signed ⟨result, answered⟩
    exact ⟨kind, proof, decodes, result, answered, (answersRightly _ _ _ _ _ answered).mpr signed⟩

end

theorem verify_authenticates_embeddedKey_07 :
    attestationOf07.kind = "tenzro" ∧
      ∃ proof, TenzroProof.fromSlice attestationOf07.proof = some proof ∧
        SignedBy07 proof.publicKey attestationOf07.digest proof.signature ∧
        (proof.publicKey = publicKeyOf07 →
          SignedBy07 publicKeyOf07 attestationOf07.digest proof.signature) :=
  (verify_authenticates_embeddedKey sdkOf07_answersRightly (fun _ => publicKeyOf07)
    (fun _ => "SdkError") (fun _ => "expected value") ⟨"edge", privateKeyOf07⟩ attestationOf07
    ()).1 (run_verify_07 _)

/-- An attester with another key accepts what that owner attests to, though its own key has signed
nothing. -/
theorem verify_accepts_foreignKey :
    (run sdkOf07 (verify (fun _ => "SdkError") (fun _ => "expected value")
      ⟨"edge", "2a2a2a2a2a2a2a2a2a2a2a2a2a2a2a2a2a2a2a2a2a2a2a2a2a2a2a2a2a2a2a2a"⟩
      attestationOf07).run ()).1 = .ok () ∧
    ¬ ∃ proof, TenzroProof.fromSlice attestationOf07.proof = some proof ∧
      SignedBy07 "197f6b23e16c8532c6abc838facd5ea789be0c76b2920334039bfa8b3d368d61"
        attestationOf07.digest proof.signature := by
  refine ⟨run_verify_07 _, ?_⟩
  rintro ⟨proof, -, otherKey, -⟩
  revert otherKey
  decide

/-! ## Everything signed -/

section

variable {σ Receipt : Type} {serve : Handler crypto σ}
  {signedBy : String → Octets 32 → String → Prop}

/-- Whatever is signed, digest or receipt, is sealed. -/
theorem sign_sealed
    (signs : ∀ key message state sig, (serve (.signMessage key message) state).1 = .ok sig →
      signedBy sig.publicKey message sig.signature)
    (answers : ∀ key message signature state, ∃ result,
      (serve (.verifySignature key message signature) state).1 = .ok result ∧
        (result.valid = true ↔ signedBy key message signature))
    (oneMessage : ∀ key message other signature, signedBy key message signature →
      signedBy key other signature → other = message)
    (debug : SdkError → String) (decodeError : Bytes → String) (attester : TenzroAttester)
    (serialise : Receipt → Except String Bytes) (blake3 : Bytes → Octets 32) (state : σ) :
    (∀ digest att after,
      run serve (attester.signDigest debug digest).run state = (.ok att, after) →
        Sealed serve debug decodeError attester digest state att) ∧
    ∀ receipt att after,
      run serve (attester.signReceipt debug serialise blake3 receipt).run state =
          (.ok att, after) →
        ∃ canon, serialise receipt = .ok canon ∧
          Sealed serve debug decodeError attester (blake3 canon) state att := by
  constructor
  · intro digest att after signed
    exact sealed_of_signDigest signs answers oneMessage signed
  · intro receipt att after signed
    rcases of_run_signReceipt signed with ⟨canon, serialised, signedDigest⟩
    exact ⟨canon, serialised, sealed_of_signDigest signs answers oneMessage signedDigest⟩

end

theorem sign_sealed_07 :
    ∃ canon, serialiseText "step" = .ok canon ∧
      Sealed sdkOf07 (fun _ => "SdkError") (fun _ => "expected value") ⟨"edge", privateKeyOf07⟩
        (blake3Of07 canon) () attestationOf07 :=
  (sign_sealed sdkOf07_signs sdkOf07_answers
    (fun _ _ _ _ signed signedOther => signedOther.2.1.trans signed.2.1.symm) _ _ _ serialiseText
    blake3Of07 ()).2 "step" attestationOf07 () run_signReceipt_07

end TenzroAttester

end TenzroEdge.Attester
