import TenzroEdge.Codec.Text
import Mathlib.Data.List.GetD

/-!
# Base64

The encoding of octets as 64 printable symbols, six bits to a symbol, for any
alphabet, with or without `=` padding. The decoder is strict: symbols outside the
alphabet, a length no encoding has, padding where it does not belong and bits left
over in the last symbol are all refused, so that decoding inverts encoding and
nothing else decodes.
-/

namespace Codec

/-- Sixty-four distinct symbols, none of them the padding character. -/
structure Alphabet where
  symbols : List Char
  length_symbols : symbols.length = 64
  nodup : symbols.Nodup
  noPadding : '=' ∉ symbols

namespace Alphabet

def symbol (alphabet : Alphabet) (value : ℕ) : Char := alphabet.symbols.getD value '='

def value? (alphabet : Alphabet) (symbol : Char) : Option ℕ := alphabet.symbols.idxOf? symbol

variable (alphabet : Alphabet)

theorem value?_symbol {value : ℕ} (bound : value < 64) :
    alphabet.value? (alphabet.symbol value) = some value := by
  have within : value < alphabet.symbols.length := by rw [alphabet.length_symbols]; exact bound
  rw [symbol, value?, List.getD_eq_getElem _ _ within, List.idxOf?_eq_some_iff]
  refine ⟨within, rfl, ?_⟩
  intro earlier earlier_lt same
  exact absurd ((alphabet.nodup.getElem_inj_iff).mp same) (by omega)

theorem symbol_mem {value : ℕ} (bound : value < 64) : alphabet.symbol value ∈ alphabet.symbols := by
  have within : value < alphabet.symbols.length := by rw [alphabet.length_symbols]; exact bound
  rw [symbol, List.getD_eq_getElem _ _ within]
  exact List.getElem_mem within

theorem symbol_ne_padding {value : ℕ} (bound : value < 64) : alphabet.symbol value ≠ '=' := by
  intro same
  exact alphabet.noPadding (same ▸ alphabet.symbol_mem bound)

end Alphabet

def standardAlphabet : Alphabet where
  symbols := "ABCDEFGHIJKLMNOPQRSTUVWXYZabcdefghijklmnopqrstuvwxyz0123456789+/".toList
  length_symbols := by decide
  nodup := by decide +kernel
  noPadding := by decide +kernel

def urlSafeAlphabet : Alphabet where
  symbols := "ABCDEFGHIJKLMNOPQRSTUVWXYZabcdefghijklmnopqrstuvwxyz0123456789-_".toList
  length_symbols := by decide
  nodup := by decide +kernel
  noPadding := by decide +kernel

/-- A Base64 engine: an alphabet, and whether the output is padded to a multiple of four. -/
structure Base64 where
  alphabet : Alphabet
  padded : Bool

def Base64.standard : Base64 := ⟨standardAlphabet, true⟩

def Base64.urlSafeNoPad : Base64 := ⟨urlSafeAlphabet, false⟩

namespace Base64

def padding (engine : Base64) (count : ℕ) : List Char :=
  if engine.padded then List.replicate count '=' else []

/-- The symbols of an octet sequence, three octets to four symbols. -/
def encodeChars (engine : Base64) : Bytes → List Char
  | [] => []
  | [first] =>
      engine.alphabet.symbol (first.toNat / 4) ::
        engine.alphabet.symbol (first.toNat % 4 * 16) :: engine.padding 2
  | [first, second] =>
      engine.alphabet.symbol (first.toNat / 4) ::
        engine.alphabet.symbol (first.toNat % 4 * 16 + second.toNat / 16) ::
        engine.alphabet.symbol (second.toNat % 16 * 4) :: engine.padding 1
  | first :: second :: third :: rest =>
      engine.alphabet.symbol (first.toNat / 4) ::
        engine.alphabet.symbol (first.toNat % 4 * 16 + second.toNat / 16) ::
        engine.alphabet.symbol (second.toNat % 16 * 4 + third.toNat / 64) ::
        engine.alphabet.symbol (third.toNat % 64) :: encodeChars engine rest

/-- The octet of a final group of two symbols, whose last four bits must be zero. -/
def finalOctet (engine : Base64) (first second : Char) : Option Bytes := do
  let high ← engine.alphabet.value? first
  let low ← engine.alphabet.value? second
  if low % 16 = 0 then some [UInt8.ofNat (high * 4 + low / 16)] else none

/-- The octets of a final group of three symbols, whose last two bits must be zero. -/
def finalOctets (engine : Base64) (first second third : Char) : Option Bytes := do
  let high ← engine.alphabet.value? first
  let middle ← engine.alphabet.value? second
  let low ← engine.alphabet.value? third
  if low % 4 = 0 then
    some [UInt8.ofNat (high * 4 + middle / 16), UInt8.ofNat (middle % 16 * 16 + low / 4)]
  else none

def groupOctets (engine : Base64) (first second third fourth : Char) : Option Bytes := do
  let high ← engine.alphabet.value? first
  let upper ← engine.alphabet.value? second
  let lower ← engine.alphabet.value? third
  let low ← engine.alphabet.value? fourth
  some [UInt8.ofNat (high * 4 + upper / 16), UInt8.ofNat (upper % 16 * 16 + lower / 4),
    UInt8.ofNat (lower % 4 * 64 + low)]

/-- Decode symbols; a group cut short, or padded, may only be the last one. -/
def decodeChars (engine : Base64) : List Char → Option Bytes
  | [] => some []
  | [_] => none
  | [first, second] => if engine.padded then none else engine.finalOctet first second
  | [first, second, third] =>
      if engine.padded then none else engine.finalOctets first second third
  | first :: second :: third :: fourth :: rest =>
      if engine.padded ∧ fourth = '=' then
        if rest ≠ [] then none
        else if third = '=' then engine.finalOctet first second
        else engine.finalOctets first second third
      else do
        let octets ← engine.groupOctets first second third fourth
        let more ← decodeChars engine rest
        some (octets ++ more)

def encode (engine : Base64) (bytes : Bytes) : String := String.ofList (engine.encodeChars bytes)

def decode (engine : Base64) (text : String) : Option Bytes := engine.decodeChars text.toList

section RoundTrip

variable (engine : Base64)

theorem finalOctet_symbols (first : UInt8) :
    engine.finalOctet (engine.alphabet.symbol (first.toNat / 4))
      (engine.alphabet.symbol (first.toNat % 4 * 16)) = some [first] := by
  have first_lt : first.toNat < 256 := first.toNat_lt
  have value₁ : first.toNat / 4 < 64 := by omega
  have value₂ : first.toNat % 4 * 16 < 64 := by omega
  have zeroBits : first.toNat % 4 * 16 % 16 = 0 := by omega
  have octet₁ : first.toNat / 4 * 4 + first.toNat % 4 * 16 / 16 = first.toNat := by omega
  simp only [finalOctet, engine.alphabet.value?_symbol value₁,
    engine.alphabet.value?_symbol value₂, Option.bind_eq_bind, Option.bind_some]
  rw [if_pos zeroBits, octet₁, UInt8.ofNat_toNat]

theorem finalOctets_symbols (first second : UInt8) :
    engine.finalOctets (engine.alphabet.symbol (first.toNat / 4))
      (engine.alphabet.symbol (first.toNat % 4 * 16 + second.toNat / 16))
      (engine.alphabet.symbol (second.toNat % 16 * 4)) = some [first, second] := by
  have first_lt : first.toNat < 256 := first.toNat_lt
  have second_lt : second.toNat < 256 := second.toNat_lt
  have value₁ : first.toNat / 4 < 64 := by omega
  have value₂ : first.toNat % 4 * 16 + second.toNat / 16 < 64 := by omega
  have value₃ : second.toNat % 16 * 4 < 64 := by omega
  have zeroBits : second.toNat % 16 * 4 % 4 = 0 := by omega
  have octet₁ : first.toNat / 4 * 4 + (first.toNat % 4 * 16 + second.toNat / 16) / 16 =
      first.toNat := by omega
  have octet₂ : (first.toNat % 4 * 16 + second.toNat / 16) % 16 * 16 +
      second.toNat % 16 * 4 / 4 = second.toNat := by omega
  simp only [finalOctets, engine.alphabet.value?_symbol value₁,
    engine.alphabet.value?_symbol value₂, engine.alphabet.value?_symbol value₃,
    Option.bind_eq_bind, Option.bind_some]
  rw [if_pos zeroBits, octet₁, octet₂, UInt8.ofNat_toNat, UInt8.ofNat_toNat]

theorem groupOctets_symbols (first second third : UInt8) :
    engine.groupOctets (engine.alphabet.symbol (first.toNat / 4))
      (engine.alphabet.symbol (first.toNat % 4 * 16 + second.toNat / 16))
      (engine.alphabet.symbol (second.toNat % 16 * 4 + third.toNat / 64))
      (engine.alphabet.symbol (third.toNat % 64)) = some [first, second, third] := by
  have first_lt : first.toNat < 256 := first.toNat_lt
  have second_lt : second.toNat < 256 := second.toNat_lt
  have third_lt : third.toNat < 256 := third.toNat_lt
  have value₁ : first.toNat / 4 < 64 := by omega
  have value₂ : first.toNat % 4 * 16 + second.toNat / 16 < 64 := by omega
  have value₃ : second.toNat % 16 * 4 + third.toNat / 64 < 64 := by omega
  have value₄ : third.toNat % 64 < 64 := by omega
  have octet₁ : first.toNat / 4 * 4 + (first.toNat % 4 * 16 + second.toNat / 16) / 16 =
      first.toNat := by omega
  have octet₂ : (first.toNat % 4 * 16 + second.toNat / 16) % 16 * 16 +
      (second.toNat % 16 * 4 + third.toNat / 64) / 4 = second.toNat := by omega
  have octet₃ : (second.toNat % 16 * 4 + third.toNat / 64) % 4 * 64 + third.toNat % 64 =
      third.toNat := by omega
  simp only [groupOctets, engine.alphabet.value?_symbol value₁,
    engine.alphabet.value?_symbol value₂, engine.alphabet.value?_symbol value₃,
    engine.alphabet.value?_symbol value₄, Option.bind_eq_bind, Option.bind_some]
  rw [octet₁, octet₂, octet₃, UInt8.ofNat_toNat, UInt8.ofNat_toNat, UInt8.ofNat_toNat]

theorem decodeChars_encodeChars (bytes : Bytes) :
    engine.decodeChars (engine.encodeChars bytes) = some bytes := by
  induction bytes using encodeChars.induct with
  | case1 => rfl
  | case2 first =>
      have single := engine.finalOctet_symbols first
      cases padded : engine.padded <;>
        simp [encodeChars, decodeChars, padding, padded, single]
  | case3 first second =>
      have double := engine.finalOctets_symbols first second
      have value₃ : second.toNat % 16 * 4 < 64 := by omega
      have third_ne := engine.alphabet.symbol_ne_padding value₃
      cases padded : engine.padded <;>
        simp [encodeChars, decodeChars, padding, padded, double, third_ne]
  | case4 first second third rest ih =>
      have group := engine.groupOctets_symbols first second third
      have value₄ : third.toNat % 64 < 64 := by omega
      have fourth_ne := engine.alphabet.symbol_ne_padding value₄
      simp [encodeChars, decodeChars, group, fourth_ne, ih]

@[simp]
theorem decode_encode (bytes : Bytes) : engine.decode (engine.encode bytes) = some bytes := by
  simp [decode, encode, decodeChars_encodeChars]

theorem encode_injective : Function.Injective engine.encode := by
  intro left right same
  have decoded := congrArg engine.decode same
  simpa using decoded

/-- An engine that does not pad writes symbols of its alphabet only. -/
theorem mem_symbols_of_mem_encodeChars (unpadded : engine.padded = false) (bytes : Bytes) :
    ∀ symbol ∈ engine.encodeChars bytes, symbol ∈ engine.alphabet.symbols := by
  have noPadding (count : ℕ) : engine.padding count = [] := by simp [padding, unpadded]
  induction bytes using encodeChars.induct with
  | case1 => simp [encodeChars]
  | case2 first =>
      have first_lt : first.toNat < 256 := first.toNat_lt
      simp only [encodeChars, noPadding, List.forall_mem_cons, List.not_mem_nil, false_imp_iff,
        implies_true, and_true]
      exact ⟨engine.alphabet.symbol_mem (by omega), engine.alphabet.symbol_mem (by omega)⟩
  | case3 first second =>
      have first_lt : first.toNat < 256 := first.toNat_lt
      have second_lt : second.toNat < 256 := second.toNat_lt
      simp only [encodeChars, noPadding, List.forall_mem_cons, List.not_mem_nil, false_imp_iff,
        implies_true, and_true]
      exact ⟨engine.alphabet.symbol_mem (by omega), engine.alphabet.symbol_mem (by omega),
        engine.alphabet.symbol_mem (by omega)⟩
  | case4 first second third rest ih =>
      have first_lt : first.toNat < 256 := first.toNat_lt
      have second_lt : second.toNat < 256 := second.toNat_lt
      have third_lt : third.toNat < 256 := third.toNat_lt
      simp only [encodeChars, List.forall_mem_cons]
      exact ⟨engine.alphabet.symbol_mem (by omega), engine.alphabet.symbol_mem (by omega),
        engine.alphabet.symbol_mem (by omega), engine.alphabet.symbol_mem (by omega), ih⟩

end RoundTrip

end Base64

end Codec
