import Mathlib.Tactic
import Mathlib.Data.List.Basic

/-!
# Octets, UTF-8 and hexadecimal

Octet sequences are lists; `Octets n` is the type of those with exactly `n`
octets. Texts are `String`s, whose UTF-8 form is `utf8`, and `hexEncode` writes
octets as lower-case hexadecimal digits. Both encoders are inverted by a decoder
that refuses everything else.
-/

namespace Codec

abbrev Bytes := List UInt8

structure Octets (n : ℕ) where
  bytes : Bytes
  length_bytes : bytes.length = n
deriving DecidableEq

namespace Octets

theorem bytes_injective (n : ℕ) : Function.Injective (bytes : Octets n → Bytes) := by
  rintro ⟨left, _⟩ ⟨right, _⟩ same
  cases same
  rfl

def ofBytes? (n : ℕ) (bytes : Bytes) : Option (Octets n) :=
  if length_bytes : bytes.length = n then some ⟨bytes, length_bytes⟩ else none

@[simp]
theorem ofBytes?_bytes {n : ℕ} (octets : Octets n) : ofBytes? n octets.bytes = some octets := by
  simp [ofBytes?, octets.length_bytes]

def replicate (n : ℕ) (octet : UInt8) : Octets n := ⟨List.replicate n octet, by simp⟩

end Octets

/-! ## UTF-8 -/

def utf8 (text : String) : Bytes := text.toByteArray.data.toList

def fromUtf8? (bytes : Bytes) : Option String := String.fromUTF8? ⟨bytes.toArray⟩

@[simp]
theorem fromUtf8?_utf8 (text : String) : fromUtf8? (utf8 text) = some text := by
  have whole : (⟨(utf8 text).toArray⟩ : ByteArray) = text.toByteArray := by simp [utf8]
  rw [fromUtf8?, whole]
  exact dif_pos text.isValidUTF8

theorem fromUtf8?_eq_some_iff {bytes : Bytes} {text : String} :
    fromUtf8? bytes = some text ↔ bytes = utf8 text := by
  constructor
  · intro decoded
    have valid : ∃ valid, String.fromUTF8 ⟨bytes.toArray⟩ valid = text := by
      simpa [fromUtf8?, String.fromUTF8?] using decoded
    rcases valid with ⟨_, rfl⟩
    simp [utf8, String.fromUTF8]
  · rintro rfl
    exact fromUtf8?_utf8 text

theorem utf8_injective : Function.Injective utf8 := by
  intro left right same
  have decoded := congrArg fromUtf8? same
  simpa using decoded

@[simp]
theorem utf8_append (left right : String) : utf8 (left ++ right) = utf8 left ++ utf8 right := by
  simp [utf8]

theorem utf8_ofList (chars : List Char) :
    utf8 (String.ofList chars) = chars.flatMap String.utf8EncodeChar := by
  rw [utf8, String.toByteArray_ofList, List.utf8Encode]
  simp

/-! ## Hexadecimal -/

/-- The value of a hexadecimal digit of either case. -/
def hexValue (digit : Char) : Option ℕ :=
  if '0' ≤ digit ∧ digit ≤ '9' then some (digit.toNat - '0'.toNat)
  else if 'a' ≤ digit ∧ digit ≤ 'f' then some (digit.toNat - 'a'.toNat + 10)
  else if 'A' ≤ digit ∧ digit ≤ 'F' then some (digit.toNat - 'A'.toNat + 10)
  else none

theorem hexValue_digitChar : ∀ value < 16, hexValue (Nat.digitChar value) = some value := by
  decide

/-- The two digits of each octet, high digit first. -/
def hexDigits (bytes : Bytes) : List Char :=
  bytes.flatMap fun byte => [Nat.digitChar (byte.toNat / 16), Nat.digitChar (byte.toNat % 16)]

/-- The octets that an even number of hexadecimal digits stands for. -/
def hexOctets : List Char → Option Bytes
  | [] => some []
  | [_] => none
  | high :: low :: rest =>
      match hexValue high, hexValue low, hexOctets rest with
      | some highValue, some lowValue, some bytes =>
          some (UInt8.ofNat (highValue * 16 + lowValue) :: bytes)
      | _, _, _ => none

@[simp]
theorem hexOctets_hexDigits (bytes : Bytes) : hexOctets (hexDigits bytes) = some bytes := by
  induction bytes with
  | nil => rfl
  | cons byte rest ih =>
      have byte_lt : byte.toNat < 256 := byte.toNat_lt
      have digits : hexDigits (byte :: rest) = Nat.digitChar (byte.toNat / 16) ::
          Nat.digitChar (byte.toNat % 16) :: hexDigits rest := rfl
      rw [digits, hexOctets, hexValue_digitChar _ (by omega), hexValue_digitChar _ (by omega), ih]
      simp only
      rw [show byte.toNat / 16 * 16 + byte.toNat % 16 = byte.toNat by omega, UInt8.ofNat_toNat]

def hexEncode (bytes : Bytes) : String := String.ofList (hexDigits bytes)

/-- The octets that a hexadecimal text of either case stands for. -/
def hexDecode (text : String) : Option Bytes := hexOctets text.toList

@[simp]
theorem hexDecode_hexEncode (bytes : Bytes) : hexDecode (hexEncode bytes) = some bytes := by
  simp [hexDecode, hexEncode]

theorem hexEncode_injective : Function.Injective hexEncode := by
  intro left right same
  have decoded := congrArg hexDecode same
  simpa using decoded

end Codec
