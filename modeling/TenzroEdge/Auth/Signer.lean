import TenzroEdge.Client
import TenzroEdge.Codec.Base64
import TenzroEdge.Codec.JsonRoundTrip

/-!
# Minting DPoP proofs

A `DpopSigner` holds an Ed25519 key pair and the thumbprint of its public key, both
derived from the seed; that they belong together is part of the type. `mintProof`
prints the header and the payload of a proof, writes each of them and the signature
in base64url, and joins the three with dots.

Ed25519 and SHA-256 are crates outside the repository: an `Ed25519` is the three
functions used of the one, and a function stands for the other.
-/

namespace TenzroEdge.Auth

open Codec

/-- The signature scheme: the public key of a seed, signing with it, and verifying. -/
structure Ed25519 where
  publicKey : Octets 32 → Octets 32
  sign : Octets 32 → Bytes → Octets 64
  verify : Octets 32 → Bytes → Octets 64 → Bool

abbrev urlSafeNoPad : Base64 := Base64.urlSafeNoPad

/-- The text whose hash is the thumbprint of a public key. -/
def canonicalJwk (key : Octets 32) : String :=
  "\x7b\"crv\":\"Ed25519\",\"kty\":\"OKP\",\"x\":\"" ++ urlSafeNoPad.encode key.bytes ++ "\"\x7d"

def jwkThumbprintEd25519 (sha256 : Bytes → Octets 32) (key : Octets 32) : String :=
  urlSafeNoPad.encode (sha256 (utf8 (canonicalJwk key))).bytes

/-- The holder of a key pair, with the thumbprint of its public key. -/
structure DpopSigner (ed25519 : Ed25519) (sha256 : Bytes → Octets 32) where
  signingKey : Octets 32
  verifyingKey : Octets 32
  jkt : String
  verifyingKey_eq : verifyingKey = ed25519.publicKey signingKey
  jkt_eq : jkt = jwkThumbprintEd25519 sha256 verifyingKey

/-- A clock reading in whole seconds since the Unix epoch, negative before it. -/
structure SystemTime where
  seconds : ℤ
  /-- The clock keeps its seconds in 64 signed bits. -/
  seconds_lt : seconds < 2 ^ 63

/-- `duration_since(UNIX_EPOCH)`. -/
def SystemTime.sinceEpoch (time : SystemTime) : Except String ℕ :=
  if time.seconds < 0 then .error "second time provided was later than self"
  else .ok time.seconds.toNat

namespace DpopSigner

variable {ed25519 : Ed25519} {sha256 : Bytes → Octets 32}

def fromSeed (seed : Octets 32) : DpopSigner ed25519 sha256 where
  signingKey := seed
  verifyingKey := ed25519.publicKey seed
  jkt := jwkThumbprintEd25519 sha256 (ed25519.publicKey seed)
  verifyingKey_eq := rfl
  jkt_eq := rfl

def generate (random : Octets 32) : DpopSigner ed25519 sha256 where
  signingKey := random
  verifyingKey := ed25519.publicKey random
  jkt := jwkThumbprintEd25519 sha256 (ed25519.publicKey random)
  verifyingKey_eq := rfl
  jkt_eq := rfl

variable (signer : DpopSigner ed25519 sha256)

def jwkThumbprint : String := signer.jkt

def seed : Octets 32 := signer.signingKey

/-- A signer rebuilt from its seed is the same signer. -/
theorem fromSeed_seed : fromSeed signer.seed = signer := by
  rcases signer with ⟨signingKey, verifyingKey, jkt, rfl, rfl⟩
  rfl

def jwk : Json :=
  .ofMembers [("kty", .string "OKP"), ("crv", .string "Ed25519"),
    ("x", .string (urlSafeNoPad.encode signer.verifyingKey.bytes))]

def header : Json :=
  .ofMembers [("typ", .string "dpop+jwt"), ("alg", .string "EdDSA"), ("jwk", signer.jwk)]

end DpopSigner

def payload (htm htu : String) (iat : ℕ) (nonce : Octets 16) : Json :=
  .ofMembers [("jti", .string (hexEncode nonce.bytes)), ("htm", .string htm),
    ("htu", .string htu), ("iat", .int iat)]

/-- A segment of a proof: printing a `Json` value cannot fail. -/
def segment (value : Json) : String := urlSafeNoPad.encode value.print

def signingInput (header payload : Json) : String := segment header ++ "." ++ segment payload

/-- The time that a proof is issued at; there is none before the epoch. -/
def issuedAt (clock : SystemTime) : Except TenzroEdgeError ℕ :=
  clock.sinceEpoch.mapError fun error => .config ("system clock pre-epoch: " ++ error)

section

variable {ed25519 : Ed25519} {sha256 : Bytes → Octets 32} (signer : DpopSigner ed25519 sha256)

/-- The proof for a method and a URL, with the given time of issue and random octets. -/
def DpopSigner.proofAt (htm htu : String) (iat : ℕ) (nonce : Octets 16) : String :=
  let input := signingInput signer.header (payload htm htu iat nonce)
  let signature := ed25519.sign signer.signingKey (utf8 input)
  input ++ "." ++ urlSafeNoPad.encode signature.bytes

/-- Mint a proof for a method and a URL, with the given clock reading and random octets. -/
def DpopSigner.mintProof (htm htu : String) (clock : SystemTime) (nonce : Octets 16) :
    Except TenzroEdgeError String :=
  (issuedAt clock).map fun iat => signer.proofAt htm htu iat nonce

end

end TenzroEdge.Auth
