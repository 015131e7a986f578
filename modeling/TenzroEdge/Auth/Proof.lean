import TenzroEdge.Auth.Signer

/-!
# Reading DPoP proofs

`readProof` takes a proof apart the way a server does, and `thumbprintOf` computes
the thumbprint of an embedded key from its JSON form, as RFC 7638 prescribes.
Minting and reading are inverse to each other for every method and URL, although a
URL is escaped, printed, encoded and joined on the way; and the thumbprint of the
embedded key agrees with the one that the signer has computed from a text of its own.
-/

namespace TenzroEdge.Auth

open Codec
open Json (printString)

/-! ## Segments -/

def segments (text : String) : List String := (text.toList.splitOn '.').map String.ofList

/-- No symbol of base64url has to be escaped in JSON, and none is a dot. -/
theorem urlSafe_symbols : ∀ char ∈ urlSafeAlphabet.symbols,
    Json.escape (String.utf8EncodeChar char) = String.utf8EncodeChar char ∧ char ≠ '.' := by
  have checked : urlSafeAlphabet.symbols.all (fun char =>
      Json.escape (String.utf8EncodeChar char) = String.utf8EncodeChar char ∧ char ≠ '.') =
        true := by decide
  intro char mem
  exact of_decide_eq_true (List.all_eq_true.mp checked char mem)

theorem urlSafe_of_mem_encode {bytes : Bytes} {char : Char}
    (mem : char ∈ (urlSafeNoPad.encode bytes).toList) :
    Json.escape (String.utf8EncodeChar char) = String.utf8EncodeChar char ∧ char ≠ '.' := by
  rw [Base64.encode, String.toList_ofList] at mem
  exact urlSafe_symbols char (Base64.mem_symbols_of_mem_encodeChars _ rfl bytes char mem)

theorem dot_notMem_encode (bytes : Bytes) : '.' ∉ (urlSafeNoPad.encode bytes).toList :=
  fun mem => (urlSafe_of_mem_encode mem).2 rfl

theorem escape_encode (bytes : Bytes) :
    Json.escape (utf8 (urlSafeNoPad.encode bytes)) = utf8 (urlSafeNoPad.encode bytes) := by
  apply Json.escape_utf8_ofList
  intro char mem
  exact (urlSafe_symbols char (Base64.mem_symbols_of_mem_encodeChars _ rfl bytes char mem)).1

/-- Joining with dots and splitting at dots are inverse to each other. -/
theorem segments_join {first second third : String} (plainFirst : '.' ∉ first.toList)
    (plainSecond : '.' ∉ second.toList) (plainThird : '.' ∉ third.toList) :
    segments (first ++ "." ++ second ++ "." ++ third) = [first, second, third] := by
  have pieces : (first ++ "." ++ second ++ "." ++ third).toList =
      first.toList ++ '.' :: (second.toList ++ '.' :: third.toList) := by simp
  rw [segments, pieces, List.splitOn_append_cons_self_of_not_mem plainFirst,
    List.splitOn_append_cons_self_of_not_mem plainSecond, List.splitOn_eq_singleton plainThird]
  simp

/-! ## Reading -/

structure Proof where
  header : Json
  payload : Json
  signed : Bytes
  signature : Octets 64

def readJson (segment : String) : Option Json := (urlSafeNoPad.decode segment).bind Json.parse

def readProof (text : String) : Option Proof :=
  match segments text with
  | [headerSegment, payloadSegment, signatureSegment] => do
      let header ← readJson headerSegment
      let payload ← readJson payloadSegment
      let signature ← (urlSafeNoPad.decode signatureSegment).bind (Octets.ofBytes? 64)
      return { header, payload, signed := utf8 (headerSegment ++ "." ++ payloadSegment), signature }
  | _ => none

def keyOfJwk (jwk : Json) : Option (Octets 32) :=
  ((jwk.getStr? "x").bind urlSafeNoPad.decode).bind (Octets.ofBytes? 32)

/-- The thumbprint of an embedded Ed25519 key: the hash of its three required members, printed in
the order of their names. -/
def thumbprintOf (sha256 : Bytes → Octets 32) (jwk : Json) : Option String := do
  let crv ← jwk.getStr? "crv"
  let kty ← jwk.getStr? "kty"
  let x ← jwk.getStr? "x"
  let required := Json.object [("crv", .string crv), ("kty", .string kty), ("x", .string x)]
  return urlSafeNoPad.encode (sha256 required.print).bytes

section

variable {ed25519 : Ed25519} {sha256 : Bytes → Octets 32} (signer : DpopSigner ed25519 sha256)

theorem jwk_eq : signer.jwk = .object [("crv", .string "Ed25519"), ("kty", .string "OKP"),
    ("x", .string (urlSafeNoPad.encode signer.verifyingKey.bytes))] := by
  simp (disch := decide) only [DpopSigner.jwk, Json.ofMembers, List.foldl_cons, List.foldl_nil,
    Json.insertMember_nil, Json.insertMember_of_lt, Json.insertMember_of_gt]

theorem header_eq : signer.header = .object [("alg", .string "EdDSA"), ("jwk", signer.jwk),
    ("typ", .string "dpop+jwt")] := by
  simp (disch := decide) only [DpopSigner.header, Json.ofMembers, List.foldl_cons,
    List.foldl_nil, Json.insertMember_nil, Json.insertMember_of_lt, Json.insertMember_of_gt]

theorem payload_eq (htm htu : String) (iat : ℕ) (nonce : Octets 16) :
    payload htm htu iat nonce = .object [("htm", .string htm), ("htu", .string htu),
      ("iat", .int iat), ("jti", .string (hexEncode nonce.bytes))] := by
  simp (disch := decide) only [payload, Json.ofMembers, List.foldl_cons, List.foldl_nil,
    Json.insertMember_nil, Json.insertMember_of_lt, Json.insertMember_of_gt]

theorem readJson_segment {value : Json} (canonical : value.Canonical)
    (shallow : value.depth ≤ 127) : readJson (segment value) = some value := by
  rw [readJson, segment, Base64.decode_encode, Option.bind_some,
    Json.parse_print value canonical shallow]

theorem canonical_header : signer.header.Canonical := by
  rw [header_eq, jwk_eq]
  simp only [Json.Canonical, Json.CanonicalMembers, List.map_cons, List.map_nil]
  decide

theorem readJson_header : readJson (segment signer.header) = some signer.header := by
  apply readJson_segment (canonical_header signer)
  simp [header_eq, jwk_eq, Json.depth, Json.depthMembers]

theorem canonical_payload {htm htu : String} {iat : ℕ} (nonce : Octets 16)
    (bound : iat < 2 ^ 64) : (payload htm htu iat nonce).Canonical := by
  rw [payload_eq]
  simp only [Json.Canonical, Json.CanonicalMembers]
  refine ⟨⟨trivial, trivial, ⟨by omega, by exact_mod_cast bound⟩, trivial, trivial⟩, ?_⟩
  simp only [List.map_cons, List.map_nil]
  decide

/-! ## Minting and reading -/

variable {signer} {htm htu : String} {clock : SystemTime} {nonce : Octets 16}

/-- The payload that is minted at a clock reading. -/
def mintedPayload (htm htu : String) (clock : SystemTime) (nonce : Octets 16) : Json :=
  payload htm htu clock.seconds.toNat nonce

theorem canonical_mintedPayload : (mintedPayload htm htu clock nonce).Canonical := by
  apply canonical_payload
  have bound := clock.seconds_lt
  omega

theorem readJson_mintedPayload : readJson (segment (mintedPayload htm htu clock nonce)) =
    some (mintedPayload htm htu clock nonce) := by
  apply readJson_segment canonical_mintedPayload
  simp [mintedPayload, payload_eq, Json.depth, Json.depthMembers]

/-- What a signer signs and how it joins the pieces, from the epoch on. -/
theorem mintProof_of_nonneg (afterEpoch : 0 ≤ clock.seconds) :
    signer.mintProof htm htu clock nonce =
      .ok (segment signer.header ++ "." ++ segment (mintedPayload htm htu clock nonce) ++ "." ++
        urlSafeNoPad.encode (ed25519.sign signer.signingKey
          (utf8 (segment signer.header ++ "." ++
            segment (mintedPayload htm htu clock nonce)))).bytes) := by
  simp only [DpopSigner.mintProof, issuedAt, SystemTime.sinceEpoch,
    if_neg (not_lt.mpr afterEpoch)]
  rfl

/-- Before the epoch nothing is minted. -/
theorem nonneg_of_mintProof {proof : String}
    (minted : signer.mintProof htm htu clock nonce = .ok proof) : 0 ≤ clock.seconds := by
  by_contra beforeEpoch
  simp only [DpopSigner.mintProof, issuedAt, SystemTime.sinceEpoch,
    if_pos (not_le.mp beforeEpoch)] at minted
  cases minted

theorem neg_of_issuedAt {error : TenzroEdgeError} (unissued : issuedAt clock = .error error) :
    clock.seconds < 0 := by
  by_contra afterEpoch
  simp only [issuedAt, SystemTime.sinceEpoch, if_neg afterEpoch] at unissued
  cases unissued

theorem segments_mintProof {proof : String}
    (minted : signer.mintProof htm htu clock nonce = .ok proof) :
    segments proof = [segment signer.header, segment (mintedPayload htm htu clock nonce),
      urlSafeNoPad.encode (ed25519.sign signer.signingKey
        (utf8 (segment signer.header ++ "." ++
          segment (mintedPayload htm htu clock nonce)))).bytes] := by
  rw [mintProof_of_nonneg (nonneg_of_mintProof minted)] at minted
  rw [← Except.ok.inj minted]
  exact segments_join (dot_notMem_encode _) (dot_notMem_encode _) (dot_notMem_encode _)

theorem readProof_mintProof {proof : String}
    (minted : signer.mintProof htm htu clock nonce = .ok proof) :
    readProof proof = some {
      header := signer.header
      payload := mintedPayload htm htu clock nonce
      signed := utf8 (segment signer.header ++ "." ++
        segment (mintedPayload htm htu clock nonce))
      signature := ed25519.sign signer.signingKey (utf8 (segment signer.header ++ "." ++
        segment (mintedPayload htm htu clock nonce))) } := by
  rw [readProof, segments_mintProof minted]
  simp only [readJson_header, readJson_mintedPayload,
    Base64.decode_encode, Octets.ofBytes?_bytes, Option.bind_eq_bind, Option.bind_some,
    Option.pure_def]

/-! ## Thumbprints -/

theorem keyOfJwk_jwk : keyOfJwk signer.jwk = some signer.verifyingKey := by
  simp [keyOfJwk, jwk_eq, Json.getStr?]

theorem canonicalJwk_injective : Function.Injective canonicalJwk := by
  intro left right same
  unfold canonicalJwk at same
  have encoded := (String.append_right_inj _).mp ((String.append_left_inj _).mp same)
  exact Octets.bytes_injective 32 (Base64.encode_injective _ encoded)

/-- The text that the signer hashes is the printed form of the required members. -/
theorem utf8_canonicalJwk (key : Octets 32) :
    utf8 (canonicalJwk key) = (Json.object [("crv", .string "Ed25519"), ("kty", .string "OKP"),
      ("x", .string (urlSafeNoPad.encode key.bytes))]).print := by
  have plain := escape_encode key.bytes
  unfold canonicalJwk
  generalize urlSafeNoPad.encode key.bytes = x at plain ⊢
  have opening : utf8 "\x7b\"crv\":\"Ed25519\",\"kty\":\"OKP\",\"x\":\"" =
      ascii '{' :: (printString "crv" ++ ascii ':' :: (printString "Ed25519" ++ ascii ',' ::
        (printString "kty" ++ ascii ':' :: (printString "OKP" ++ ascii ',' ::
          (printString "x" ++ [ascii ':', ascii '"']))))) := by decide +kernel
  have closing : utf8 "\"\x7d" = [ascii '"', ascii '}'] := by decide
  have member : printString x = ascii '"' :: (utf8 x ++ [ascii '"']) := by
    rw [printString, plain]
  simp only [utf8_append]
  refine (congrArg₂ (· ++ ·) (congrArg (· ++ utf8 x) opening) closing).trans ?_
  simp only [Json.print, Json.printMembers, member, List.append_assoc, List.cons_append,
    List.nil_append]

theorem thumbprintOf_jwk : thumbprintOf sha256 signer.jwk = some signer.jwkThumbprint := by
  simp only [DpopSigner.jwkThumbprint, signer.jkt_eq, jwkThumbprintEd25519, utf8_canonicalJwk,
    jwk_eq]
  simp [thumbprintOf, Json.getStr?]

theorem verifyingKey_eq_of_jwkThumbprint {other : DpopSigner ed25519 sha256}
    (collisionFree : Set.InjOn sha256 (Set.range fun key => utf8 (canonicalJwk key)))
    (same : other.jwkThumbprint = signer.jwkThumbprint) :
    other.verifyingKey = signer.verifyingKey := by
  rw [DpopSigner.jwkThumbprint, DpopSigner.jwkThumbprint, other.jkt_eq, signer.jkt_eq] at same
  have hashes := Octets.bytes_injective 32 (Base64.encode_injective _ same)
  have texts := utf8_injective (collisionFree (Set.mem_range_self other.verifyingKey)
    (Set.mem_range_self signer.verifyingKey) hashes)
  exact canonicalJwk_injective texts

/-! ## Every proof -/

/-- What a proof is to whoever takes it apart. That its thumbprint is that of no other key needs
a hash without collisions on the texts of keys. -/
structure Faithful (signer : DpopSigner ed25519 sha256) (htm htu : String) (clock : SystemTime)
    (nonce : Octets 16) (proof : String) : Prop where
  decodes : ∃ headerSegment payloadSegment signatureSegment x, ∃ signature : Octets 64,
    segments proof = [headerSegment, payloadSegment, signatureSegment] ∧
    readJson headerSegment = some (.object [("alg", .string "EdDSA"),
      ("jwk", .object [("crv", .string "Ed25519"), ("kty", .string "OKP"), ("x", .string x)]),
      ("typ", .string "dpop+jwt")]) ∧
    urlSafeNoPad.decode x = some signer.verifyingKey.bytes ∧
    readJson payloadSegment = some (.object [("htm", .string htm), ("htu", .string htu),
      ("iat", .int clock.seconds), ("jti", .string (hexEncode nonce.bytes))]) ∧
    urlSafeNoPad.decode signatureSegment = some signature.bytes ∧
    ed25519.verify signer.verifyingKey (utf8 (headerSegment ++ "." ++ payloadSegment))
      signature = true ∧
    thumbprintOf sha256 (.object [("crv", .string "Ed25519"), ("kty", .string "OKP"),
      ("x", .string x)]) = some signer.jwkThumbprint
  identifies : Set.InjOn sha256 (Set.range fun key => utf8 (canonicalJwk key)) →
    ∀ other : DpopSigner ed25519 sha256,
      other.verifyingKey ≠ signer.verifyingKey → other.jwkThumbprint ≠ signer.jwkThumbprint
  /-- The signer that is rebuilt from the seed mints the same proof. -/
  rebuilt : (DpopSigner.fromSeed signer.seed : DpopSigner ed25519 sha256).mintProof htm htu clock
    nonce = .ok proof
  fresh : ∀ (other : DpopSigner ed25519 sha256) (otherHtm otherHtu : String)
    (otherClock : SystemTime) (otherNonce : Octets 16), otherNonce ≠ nonce →
      other.mintProof otherHtm otherHtu otherClock otherNonce ≠ .ok proof

theorem nonce_eq_of_mintProof {other : DpopSigner ed25519 sha256} {otherHtm otherHtu : String}
    {otherClock : SystemTime} {otherNonce : Octets 16} {proof : String}
    (minted : signer.mintProof htm htu clock nonce = .ok proof)
    (otherMinted : other.mintProof otherHtm otherHtu otherClock otherNonce = .ok proof) :
    otherNonce = nonce := by
  have read := (readProof_mintProof otherMinted).symm.trans
    (readProof_mintProof minted)
  have payloads := congrArg Proof.payload (Option.some.inj read)
  simp only [mintedPayload, payload_eq, Json.object.injEq, List.cons.injEq, Prod.mk.injEq,
    Json.string.injEq, true_and, and_true] at payloads
  exact Octets.bytes_injective 16 (hexEncode_injective payloads.2.2.2)

theorem faithful_of_mintProof {proof : String}
    (verifies : ∀ seed message,
      ed25519.verify (ed25519.publicKey seed) message (ed25519.sign seed message) = true)
    (minted : signer.mintProof htm htu clock nonce = .ok proof) :
    Faithful signer htm htu clock nonce proof := by
  constructor
  case decodes =>
    refine ⟨_, _, _, _, _, segments_mintProof minted, ?_, Base64.decode_encode _ _, ?_,
      Base64.decode_encode _ _, ?_, ?_⟩
    · rw [readJson_header, header_eq, jwk_eq]
    · rw [readJson_mintedPayload, mintedPayload, payload_eq,
        Int.toNat_of_nonneg (nonneg_of_mintProof minted)]
    · rw [signer.verifyingKey_eq]
      exact verifies signer.signingKey _
    · rw [← jwk_eq]
      exact thumbprintOf_jwk
  case identifies =>
    intro collisionFree other distinct same
    apply distinct
    exact verifyingKey_eq_of_jwkThumbprint collisionFree same
  case rebuilt =>
    rw [signer.fromSeed_seed]
    exact minted
  case fresh =>
    intro other otherHtm otherHtu otherClock otherNonce distinct otherMinted
    apply distinct
    exact nonce_eq_of_mintProof minted otherMinted

/-- From the epoch on, a proof is minted, and it is faithful to its signer, its method, its URL, the
clock and the nonce. -/
theorem mintProof_faithful
    (verifies : ∀ seed message,
      ed25519.verify (ed25519.publicKey seed) message (ed25519.sign seed message) = true)
    (signer : DpopSigner ed25519 sha256) (htm htu : String) (clock : SystemTime)
    (afterEpoch : 0 ≤ clock.seconds) (nonce : Octets 16) :
    ∃ proof, signer.mintProof htm htu clock nonce = .ok proof ∧
      Faithful signer htm htu clock nonce proof :=
  ⟨_, mintProof_of_nonneg afterEpoch,
    faithful_of_mintProof verifies (mintProof_of_nonneg afterEpoch)⟩

end

/-! ## One signer with its real values -/

/-- The public key of the seed of 32 times the octet 42. -/
def publicKeyOf42 : Octets 32 where
  bytes := [0x19, 0x7f, 0x6b, 0x23, 0xe1, 0x6c, 0x85, 0x32, 0xc6, 0xab, 0xc8, 0x38,
    0xfa, 0xcd, 0x5e, 0xa7, 0x89, 0xbe, 0x0c, 0x76, 0xb2, 0x92, 0x03, 0x34,
    0x03, 0x9b, 0xfa, 0x8b, 0x3d, 0x36, 0x8d, 0x61]
  length_bytes := rfl

/-- The SHA-256 digest of the JWK of that key. -/
def jwkDigestOf42 : Octets 32 where
  bytes := [0x45, 0xdb, 0x08, 0x74, 0xed, 0xc2, 0xb0, 0xc0, 0xf3, 0x0a, 0x33, 0x59,
    0xbf, 0x38, 0x7d, 0xa2, 0xa3, 0x26, 0x4e, 0x03, 0x00, 0x4a, 0x0d, 0xe3,
    0x82, 0x80, 0x22, 0xf1, 0xd5, 0xd9, 0x2c, 0x84]
  length_bytes := rfl

/-- What that signer signs for a POST to the network's endpoint, at the clock reading and with the
nonce below. -/
def signingInputOf42 : String :=
  "eyJhbGciOiJFZERTQSIsImp3ayI6eyJjcnYiOiJFZDI1NTE5Iiwia3R5IjoiT0tQIiwieCI6IkdYOXJJLUZz" ++
    "aFRMR3E4ZzQtczFlcDRtLURIYXlrZ00wQTV2Nml6MDJqV0UifSwidHlwIjoiZHBvcCtqd3QifQ" ++ "." ++
  "eyJodG0iOiJQT1NUIiwiaHR1IjoiaHR0cHM6Ly9ycGMudGVuenJvLm5ldHdvcmsiLCJpYXQiOjE3MDAwMDAw" ++
    "MDAsImp0aSI6IjAwMDAwMDAwMDAwMDAwMDAwMDAwMDAwMDAwMDAwMDAwIn0"

def signatureOf42 : Octets 64 where
  bytes := [0x9c, 0x7f, 0x4e, 0xc7, 0x6e, 0xab, 0x7e, 0x47, 0x77, 0x08, 0x8d, 0x64,
    0x73, 0x2e, 0x80, 0xa7, 0x02, 0x43, 0x93, 0x05, 0xb6, 0xe6, 0x83, 0x4f,
    0x57, 0x6d, 0x36, 0x46, 0x65, 0x7f, 0x73, 0x82, 0xf2, 0x94, 0x11, 0xce,
    0x4f, 0x36, 0xe7, 0xf0, 0xcb, 0x2a, 0x17, 0x7b, 0x8f, 0x93, 0x49, 0xc5,
    0x1b, 0x85, 0x03, 0xde, 0xca, 0xcf, 0x2e, 0x6d, 0x9c, 0xa6, 0xc5, 0xa1,
    0x3e, 0xc8, 0x44, 0x08]
  length_bytes := rfl

def clockOf42 : SystemTime := ⟨1700000000, by decide⟩

def nonceOf42 : Octets 16 := .replicate 16 0

/-- A signature scheme that agrees with Ed25519 on that signer and that text. -/
def schemeOf42 : Ed25519 where
  publicKey seed := if seed = .replicate 32 42 then publicKeyOf42 else seed
  sign seed message :=
    if (if seed = .replicate 32 42 then publicKeyOf42 else seed) = publicKeyOf42 ∧
        message = utf8 signingInputOf42 then signatureOf42
    else .replicate 64 0
  verify key message signature :=
    signature = if key = publicKeyOf42 ∧ message = utf8 signingInputOf42 then signatureOf42
      else .replicate 64 0

/-- A hash without collisions on JWKs that agrees with SHA-256 on the JWK of that key. -/
def sha256Of42 (text : Bytes) : Octets 32 :=
  match (Json.parse text).bind keyOfJwk with
  | some key => Equiv.swap publicKeyOf42 jwkDigestOf42 key
  | none => .replicate 32 0

theorem parse_canonicalJwk (key : Octets 32) :
    (Json.parse (utf8 (canonicalJwk key))).bind keyOfJwk = some key := by
  have canonical : (Json.object [("crv", .string "Ed25519"), ("kty", .string "OKP"),
      ("x", .string (urlSafeNoPad.encode key.bytes))]).Canonical := by
    simp only [Json.Canonical, Json.CanonicalMembers, List.map_cons, List.map_nil]
    decide
  have shallow : (Json.object [("crv", .string "Ed25519"), ("kty", .string "OKP"),
      ("x", .string (urlSafeNoPad.encode key.bytes))]).depth ≤ 127 := by
    simp [Json.depth, Json.depthMembers]
  simp [keyOfJwk, utf8_canonicalJwk, Json.parse_print _ canonical shallow, Json.getStr?]

theorem sha256Of42_collisionFree :
    Set.InjOn sha256Of42 (Set.range fun key => utf8 (canonicalJwk key)) := by
  rintro _ ⟨left, rfl⟩ _ ⟨right, rfl⟩ same
  simp only [sha256Of42, parse_canonicalJwk] at same
  rw [(Equiv.swap _ _).injective same]

/-- The hash of the example has no collisions on keys, so that the proof identifies its key. -/
theorem mintProof_faithful_42 :
    Set.InjOn sha256Of42 (Set.range fun key => utf8 (canonicalJwk key)) ∧
    ∃ proof, (DpopSigner.fromSeed (.replicate 32 42) :
        DpopSigner schemeOf42 sha256Of42).mintProof "POST" "https://rpc.tenzro.network" clockOf42
          nonceOf42 = .ok proof ∧
      Faithful (DpopSigner.fromSeed (.replicate 32 42) : DpopSigner schemeOf42 sha256Of42) "POST"
        "https://rpc.tenzro.network" clockOf42 nonceOf42 proof :=
  ⟨sha256Of42_collisionFree,
    mintProof_faithful (fun _ _ => by simp [schemeOf42]) _ _ _ _ (by decide) _⟩

end TenzroEdge.Auth
