import TenzroEdge.Codec.Text
import Mathlib.Data.Nat.Log

/-!
# Numbers of JSON texts

A `Numeral` is a number as it is written, in digits. `scan` reads one off the front of a text,
and `Numeral.write` is its inverse on the numerals that are written here.

A numeral without fraction and exponent stands for an integer, when this has 64 bits. All others
stand for a double-precision number. Its reader takes up the leading digits that fit into 64 bits
and scales them by powers of ten, one rounding after the other, so that what it finds may differ
from the nearest double in the last place; a number beyond the range of a double has no value.
-/

namespace Codec

def ascii (character : Char) : UInt8 := UInt8.ofNat character.toNat

def isDigit (octet : UInt8) : Bool := ascii '0' ≤ octet && octet ≤ ascii '9'

def natDigits (value : ℕ) : Bytes := (Nat.toDigits 10 value).map ascii

def digitsValue (digits : Bytes) : ℕ :=
  Nat.ofDigitChars 10 (digits.map fun octet => Char.ofNat octet.toNat) 0

/-- A number as it is written: the digits before and after the point, and those of the exponent
behind its sign. -/
structure Numeral where
  negative : Bool
  integer : Bytes
  fraction : Bytes
  exponent : Option (Bool × Bytes)

namespace Numeral

/-! ## Scanning -/

def scanDigits (input : Bytes) : Bytes × Bytes := (input.takeWhile isDigit, input.dropWhile isDigit)

/-- Read an integer part: `0`, or digits that do not begin with `0`. -/
def scanInteger : Bytes → Option (Bytes × Bytes)
  | [] => none
  | first :: rest =>
      if first = ascii '0' then some ([first], rest)
      else if isDigit first then some (first :: (scanDigits rest).1, (scanDigits rest).2)
      else none

def scanFraction : Bytes → Option (Bytes × Bytes)
  | [] => some ([], [])
  | first :: rest =>
      if first = ascii '.' then
        if (scanDigits rest).1 = [] then none else some (scanDigits rest)
      else some ([], first :: rest)

def scanExponent : Bytes → Option (Option (Bool × Bytes) × Bytes)
  | [] => some (none, [])
  | first :: rest =>
      if first = ascii 'e' ∨ first = ascii 'E' then
        match rest with
        | [] => none
        | sign :: digits =>
            if sign = ascii '+' ∨ sign = ascii '-' then
              if (scanDigits digits).1 = [] then none
              else some (some (decide (sign = ascii '-'), (scanDigits digits).1),
                (scanDigits digits).2)
            else if (scanDigits rest).1 = [] then none
            else some (some (false, (scanDigits rest).1), (scanDigits rest).2)
      else some (none, first :: rest)

def scanMagnitude (negative : Bool) (input : Bytes) : Option (Numeral × Bytes) := do
  let (integer, rest) ← scanInteger input
  let (fraction, rest) ← scanFraction rest
  let (exponent, rest) ← scanExponent rest
  some (⟨negative, integer, fraction, exponent⟩, rest)

def scan : Bytes → Option (Numeral × Bytes)
  | [] => none
  | first :: rest =>
      if first = ascii '-' then scanMagnitude true rest
      else scanMagnitude false (first :: rest)

/-! ## The integer that a numeral stands for -/

/-- The integer, when it has 64 bits; `-0` is none. -/
def integer? (numeral : Numeral) : Option ℤ :=
  if numeral.fraction = [] ∧ numeral.exponent = none then
    if numeral.negative then
      if 0 < digitsValue numeral.integer ∧ digitsValue numeral.integer ≤ 2 ^ 63 then
        some (-digitsValue numeral.integer)
      else none
    else if digitsValue numeral.integer < 2 ^ 64 then some (digitsValue numeral.integer)
    else none
  else none

end Numeral

/-! ## Doubles -/

/-- A finite double-precision number. -/
structure Double where
  value : Float
  finite : value.isFinite = true
deriving DecidableEq

def Double.ofFloat? (value : Float) : Option Double :=
  if finite : value.isFinite = true then some ⟨value, finite⟩ else none

/-- The double nearest to a power of ten. -/
def tenTo (power : ℕ) : Float := Float.ofScientific 1 false power

/-- Divide by a power of ten. The first argument bounds the number of divisions. -/
def scaleDown : ℕ → Float → ℕ → Float
  | 0, value, _ => value
  | rounds + 1, value, power =>
      if power ≤ 308 then value / tenTo power
      else if value == 0 then value
      else scaleDown rounds (value / tenTo 308) (power - 308)

/-- A number of 64 bits, scaled by a power of ten. -/
def ofParts (significand : ℕ) : ℤ → Option Float
  | .ofNat power =>
      let value := (UInt64.ofNat significand).toFloat
      if power ≤ 308 then
        if (value * tenTo power).isInf then none else some (value * tenTo power)
      else if value == 0 then some value
      else none
  | .negSucc power => some (scaleDown (power + 2) (UInt64.ofNat significand).toFloat (power + 1))

/-- Continue a number by the digits behind it as long as it has 64 bits; what is left are the
digits from the first one on that does not fit. -/
def takeUp (significand : ℕ) : Bytes → ℕ × Bytes
  | [] => (significand, [])
  | digit :: rest =>
      let next := significand * 10 + (digit.toNat - (ascii '0').toNat)
      if next < 2 ^ 64 then takeUp next rest else (significand, digit :: rest)

namespace Numeral

/-- The significand, and the power of ten that it is scaled by without the exponent. A digit of
the integer that is left out counts, and so does a digit of the fraction that is taken up. -/
def parts (numeral : Numeral) : ℕ × ℤ :=
  let whole := takeUp 0 numeral.integer
  let all := takeUp whole.1 numeral.fraction
  (all.1, whole.2.length - (numeral.fraction.length - all.2.length))

/-- An exponent beyond 32 bits is not computed with. -/
def magnitude? (numeral : Numeral) : Option Float :=
  match numeral.exponent with
  | none => ofParts numeral.parts.1 numeral.parts.2
  | some (negative, digits) =>
      if digitsValue digits < 2 ^ 31 then
        ofParts numeral.parts.1
          (numeral.parts.2 + if negative then -(digitsValue digits : ℤ) else digitsValue digits)
      else if numeral.parts.1 ≠ 0 ∧ negative = false then none
      else some 0

def double? (numeral : Numeral) : Option Double :=
  numeral.magnitude?.bind fun magnitude =>
    Double.ofFloat? (if numeral.negative then -magnitude else magnitude)

/-! ## Writing -/

def writeFraction : Bytes → Bytes
  | [] => []
  | digit :: rest => ascii '.' :: digit :: rest

def writeExponent : Option (Bool × Bytes) → Bytes
  | none => []
  | some (negative, digits) =>
      ascii 'e' :: (if negative then ascii '-' else ascii '+') :: digits

def write (numeral : Numeral) : Bytes :=
  (if numeral.negative then [ascii '-'] else []) ++
    (numeral.integer ++ (writeFraction numeral.fraction ++ writeExponent numeral.exponent))

def ofInt (value : ℤ) : Numeral where
  negative := decide (value < 0)
  integer := natDigits value.natAbs
  fraction := []
  exponent := none

end Numeral

/-! ## The digits of a double -/

namespace Double

def isNegative (double : Double) : Bool := decide (2 ^ 63 ≤ double.value.toBits.toNat)

/-- The magnitude as a multiple of `2 ^ (-1075)`. -/
def units (double : Double) : ℕ :=
  let bits := double.value.toBits.toNat % 2 ^ 63
  if bits / 2 ^ 52 = 0 then 2 * bits else (2 ^ 52 + bits % 2 ^ 52) * 2 ^ (bits / 2 ^ 52)

/-- The decimals of the given number of digits below and above a magnitude, the nearer one first,
each with the power of ten that scales it. -/
def decimals (units width : ℕ) : List (ℕ × ℤ) :=
  -- The largest power of ten that is no more than the magnitude is `10 ^ (place - 324)`.
  let place := Nat.log 10 (units * 10 ^ 324 / 2 ^ 1075)
  let power : ℤ := place - 323 - width
  let step := 2 ^ 1075 * 10 ^ place
  let below := units * 10 ^ (323 + width) / step
  let above := if below + 1 = 10 ^ width then (1, power + width) else (below + 1, power)
  if 2 * (units * 10 ^ (323 + width) % step) ≤ step then [(below, power), above]
  else [above, (below, power)]

def nearest (decimal : ℕ × ℤ) : Float :=
  Float.ofScientific decimal.1 (decide (decimal.2 < 0)) decimal.2.natAbs

/-- The decimal of the fewest digits among those which the double is nearest to; seventeen digits
are always enough. -/
def shortest (double : Double) : ℕ × ℤ :=
  let candidates := (List.range 17).flatMap fun width => decimals double.units (width + 1)
  if double.units = 0 then (0, 0)
  else (candidates.find? fun decimal => nearest decimal == double.value.abs).getD (0, 0)

end Double

/-- The last digits of a number. -/
def lastDigits (width value : ℕ) : Bytes := (natDigits (10 ^ width + value % 10 ^ width)).tail

namespace Numeral

def plain (negative : Bool) (digits : ℕ) : ℤ → Numeral
  | .ofNat zeros => ⟨negative, natDigits (digits * 10 ^ zeros), [ascii '0'], none⟩
  | .negSucc places => ⟨negative, natDigits (digits / 10 ^ (places + 1)),
      lastDigits (places + 1) digits, none⟩

/-- The point stands behind the first digit. -/
def scientific (negative : Bool) (digits width : ℕ) (exponent : ℤ) : Numeral :=
  ⟨negative, natDigits (digits / 10 ^ (width - 1)), lastDigits (width - 1) digits,
    some (decide (exponent < 0), natDigits exponent.natAbs)⟩

/-- A decimal is written without an exponent when its point is near the digits. -/
def ofDecimal (negative : Bool) (digits : ℕ) (power : ℤ) : Numeral :=
  let width := (natDigits digits).length
  let exponent := power + width - 1
  if -5 ≤ exponent ∧ exponent ≤ 15 then plain negative digits power
  else scientific negative digits width exponent

def ofDouble (double : Double) : Numeral :=
  ofDecimal double.isNegative double.shortest.1 double.shortest.2

end Numeral

/-! ## Digits -/

theorem isDigit_digitChar : ∀ value < 10, isDigit (ascii (Nat.digitChar value)) = true := by
  decide

theorem digitChar_ne_zero : ∀ value < 10, ascii (Nat.digitChar value) = ascii '0' → value = 0 := by
  decide

/-- The digits of a number: only zero begins with the digit zero. -/
theorem natDigits_shape (value : ℕ) :
    ∃ first more, natDigits value = first :: more ∧ isDigit first = true ∧
      (∀ digit ∈ more, isDigit digit = true) ∧
      (first = ascii '0' → value = 0 ∧ more = []) := by
  induction value using Nat.strong_induction_on with
  | h value ih =>
      by_cases small : value < 10
      · refine ⟨ascii (Nat.digitChar value), [], ?_, isDigit_digitChar value small, by simp, ?_⟩
        · simp [natDigits, Nat.toDigits_of_lt_base small]
        · intro leadingZero
          exact ⟨digitChar_ne_zero value small leadingZero, rfl⟩
      · rcases ih (value / 10) (by omega) with ⟨first, more, digits, isFirst, areMore, leading⟩
        have last := isDigit_digitChar (value % 10) (by omega)
        refine ⟨first, more ++ [ascii (Nat.digitChar (value % 10))], ?_, isFirst, ?_, ?_⟩
        · rw [natDigits, Nat.toDigits_of_base_le (by omega) (by omega), List.map_append]
          change natDigits (value / 10) ++ _ = _
          rw [digits]
          rfl
        · intro digit digitMem
          rcases List.mem_append.mp digitMem with old | new
          · exact areMore digit old
          · rw [List.mem_singleton.mp new]
            exact last
        · intro leadingZero
          have := (leading leadingZero).1
          omega

theorem isDigit_of_mem_natDigits {value : ℕ} :
    ∀ digit ∈ natDigits value, isDigit digit = true := by
  rcases natDigits_shape value with ⟨first, more, digits, isFirst, areMore, -⟩
  simpa [digits, isFirst] using areMore

theorem natDigits_ne_nil (value : ℕ) : natDigits value ≠ [] := by
  rcases natDigits_shape value with ⟨first, more, digits, -⟩
  simp [digits]

theorem digitsValue_natDigits (value : ℕ) : digitsValue (natDigits value) = value := by
  have undone : (natDigits value).map (fun octet => Char.ofNat octet.toNat) =
      Nat.toDigits 10 value := by
    rw [natDigits, List.map_map]
    conv_rhs => rw [← List.map_id (Nat.toDigits 10 value)]
    apply List.map_congr_left
    intro digit digitMem
    have small := Nat.isDigit_of_mem_toDigits (by decide) (by decide) digitMem
    simp only [Char.isDigit, Bool.and_eq_true, decide_eq_true_eq] at small
    have bound : digit.toNat < 256 := by
      have := UInt32.le_iff_toNat_le.mp small.2
      change digit.val.toNat ≤ 57 at this
      change digit.val.toNat < 256
      omega
    simp [ascii, Nat.mod_eq_of_lt bound]
  rw [digitsValue, undone, Nat.ofDigitChars_ten_toDigits]

theorem isDigit_of_mem_lastDigits {width value : ℕ} :
    ∀ digit ∈ lastDigits width value, isDigit digit = true := by
  intro digit digitMem
  exact isDigit_of_mem_natDigits digit (List.mem_of_mem_tail digitMem)

namespace Numeral

theorem integer?_ofInt {value : ℤ} (lower : -2 ^ 63 ≤ value) (upper : value < 2 ^ 64) :
    (ofInt value).integer? = some value := by
  by_cases negative : value < 0
  · simp only [integer?, ofInt, negative, digitsValue_natDigits, and_self, decide_true, if_true]
    rw [if_pos (by omega)]
    congr 1
    omega
  · simp only [integer?, ofInt, negative, digitsValue_natDigits, and_self, decide_false, if_true]
    rw [if_neg (by decide), if_pos (by omega)]
    congr 1
    omega

/-! ## Reading back what was written -/

/-- The digits are digits, and there are some where a reader needs them. -/
structure Written (numeral : Numeral) : Prop where
  integer : ∃ value, numeral.integer = natDigits value
  fraction : ∀ digit ∈ numeral.fraction, isDigit digit = true
  exponent : ∀ exponent ∈ numeral.exponent,
    exponent.2 ≠ [] ∧ ∀ digit ∈ exponent.2, isDigit digit = true

theorem written_ofInt (value : ℤ) : (ofInt value).Written where
  integer := ⟨value.natAbs, rfl⟩
  fraction digit digitMem := by cases digitMem
  exponent exponent exponentMem := by cases exponentMem

theorem written_ofDecimal (negative : Bool) (digits : ℕ) (power : ℤ) :
    (ofDecimal negative digits power).Written := by
  simp only [ofDecimal]
  split
  · cases power with
    | ofNat zeros => exact ⟨⟨_, rfl⟩, by simp [plain]; decide, by simp [plain]⟩
    | negSucc places => exact ⟨⟨_, rfl⟩, isDigit_of_mem_lastDigits, by simp [plain]⟩
  · refine ⟨⟨_, rfl⟩, isDigit_of_mem_lastDigits, ?_⟩
    intro exponent exponentMem
    cases exponentMem
    exact ⟨natDigits_ne_nil _, isDigit_of_mem_natDigits⟩

theorem written_ofDouble (double : Double) : (ofDouble double).Written :=
  written_ofDecimal double.isNegative double.shortest.1 double.shortest.2

/-- What follows a number: no octet that would go on with it. -/
def Ends (rest : Bytes) : Prop :=
  ∀ next ∈ rest.head?, isDigit next = false ∧ next ≠ ascii '.' ∧ next ≠ ascii 'e' ∧
    next ≠ ascii 'E'

section

variable {digits rest : Bytes}

theorem scanDigits_append (areDigits : ∀ digit ∈ digits, isDigit digit = true)
    (ends : ∀ next ∈ rest.head?, isDigit next = false) :
    scanDigits (digits ++ rest) = (digits, rest) := by
  have stops : rest.takeWhile isDigit = [] ∧ rest.dropWhile isDigit = rest := by
    cases rest with
    | nil => exact ⟨rfl, rfl⟩
    | cons next more => simp [ends next rfl]
  rw [scanDigits, List.takeWhile_append_of_pos areDigits, List.dropWhile_append_of_pos areDigits,
    stops.1, stops.2, List.append_nil]

theorem scanInteger_natDigits (value : ℕ) (ends : ∀ next ∈ rest.head?, isDigit next = false) :
    scanInteger (natDigits value ++ rest) = some (natDigits value, rest) := by
  rcases natDigits_shape value with ⟨first, more, digits, isFirst, areMore, leading⟩
  rw [digits, List.cons_append, scanInteger]
  by_cases zero : first = ascii '0'
  · rw [if_pos zero, (leading zero).2, List.nil_append]
  · rw [if_neg zero, if_pos isFirst, scanDigits_append areMore ends]

theorem scanFraction_write (areDigits : ∀ digit ∈ digits, isDigit digit = true)
    (ends : ∀ next ∈ rest.head?, isDigit next = false ∧ next ≠ ascii '.') :
    scanFraction (writeFraction digits ++ rest) = some (digits, rest) := by
  cases digits with
  | nil =>
      cases rest with
      | nil => rfl
      | cons next more => simp [writeFraction, scanFraction, (ends next rfl).2]
  | cons digit more =>
      have scanned := scanDigits_append areDigits fun next nextMem => (ends next nextMem).1
      rw [List.cons_append] at scanned
      rw [writeFraction, List.cons_append, List.cons_append, scanFraction, if_pos rfl, scanned]
      simp

theorem scanExponent_write {exponent : Option (Bool × Bytes)}
    (areDigits : ∀ parts ∈ exponent, parts.2 ≠ [] ∧ ∀ digit ∈ parts.2, isDigit digit = true)
    (ends : Ends rest) :
    scanExponent (writeExponent exponent ++ rest) = some (exponent, rest) := by
  cases exponent with
  | none =>
      cases rest with
      | nil => rfl
      | cons next more =>
          have other := ends next rfl
          simp [writeExponent, scanExponent, other.2.2.1, other.2.2.2]
  | some parts =>
      rcases parts with ⟨negative, digits⟩
      rcases areDigits _ rfl with ⟨nonempty, areDigits⟩
      have scanned := scanDigits_append areDigits fun next nextMem => (ends next nextMem).1
      cases negative with
      | false =>
          simp [writeExponent, scanExponent, scanned, nonempty,
            show ascii '+' ≠ ascii '-' by decide]
      | true => simp [writeExponent, scanExponent, scanned, nonempty]

end

section

variable {numeral : Numeral} {rest : Bytes}

theorem scanMagnitude_write (written : numeral.Written) (ends : Ends rest) :
    scanMagnitude numeral.negative (numeral.integer ++ (writeFraction numeral.fraction ++
      (writeExponent numeral.exponent ++ rest))) = some (numeral, rest) := by
  rcases written.integer with ⟨value, integer⟩
  have behindFraction : ∀ next ∈ (writeExponent numeral.exponent ++ rest).head?,
      isDigit next = false ∧ next ≠ ascii '.' := by
    intro next nextMem
    cases exponent : numeral.exponent with
    | none =>
        rw [exponent] at nextMem
        exact ⟨(ends next nextMem).1, (ends next nextMem).2.1⟩
    | some parts =>
        rw [exponent] at nextMem
        cases nextMem
        decide
  have behindInteger : ∀ next ∈ (writeFraction numeral.fraction ++
      (writeExponent numeral.exponent ++ rest)).head?, isDigit next = false := by
    intro next nextMem
    cases fraction : numeral.fraction with
    | nil =>
        rw [fraction] at nextMem
        exact (behindFraction next nextMem).1
    | cons digit more =>
        rw [fraction] at nextMem
        cases nextMem
        decide
  rw [integer]
  simp only [scanMagnitude, scanInteger_natDigits value behindInteger,
    scanFraction_write written.fraction behindFraction,
    scanExponent_write written.exponent ends, Option.bind_eq_bind, Option.bind_some]
  rw [← integer]

/-- Scanning inverts writing. -/
theorem scan_write (written : numeral.Written) (ends : Ends rest) :
    scan (numeral.write ++ rest) = some (numeral, rest) := by
  have magnitude := scanMagnitude_write written ends
  rcases written.integer with ⟨value, integer⟩
  rcases natDigits_shape value with ⟨first, more, digits, isFirst, -⟩
  cases negative : numeral.negative with
  | true =>
      rw [negative] at magnitude
      simpa [write, negative, scan] using magnitude
  | false =>
      have unsigned : first ≠ ascii '-' := by
        rintro rfl
        exact absurd isFirst (by decide)
      rw [negative, integer, digits] at magnitude
      rw [write, negative, integer, digits]
      simpa [scan, unsigned] using magnitude

/-- A number begins with a sign or a digit. -/
theorem write_eq_cons (written : numeral.Written) :
    ∃ first more, numeral.write = first :: more ∧
      (first = ascii '-' ∨ isDigit first = true) := by
  rcases written.integer with ⟨value, integer⟩
  rcases natDigits_shape value with ⟨first, more, digits, isFirst, -⟩
  cases negative : numeral.negative with
  | true =>
      rw [write, negative]
      exact ⟨ascii '-', _, rfl, .inl rfl⟩
  | false =>
      rw [write, negative, integer, digits]
      exact ⟨first, _, rfl, .inr isFirst⟩

end

end Numeral

end Codec
