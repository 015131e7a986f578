import Mathlib.Tactic

/-!
# Unsigned decimal numbers

`parseUnsigned bits` reads an unsigned number of the given width the way
`str::parse` does: an optional plus sign, then decimal digits. The value is
accumulated from the left, and a digit that does not fit is reported before the
digits behind it are looked at.
-/

namespace Codec

inductive IntErrorKind where
  | empty
  | invalidDigit
  | posOverflow
deriving DecidableEq

/-- The text of the error, as its `Display` implementation gives it. -/
def IntErrorKind.display : IntErrorKind → String
  | .empty => "cannot parse integer from empty string"
  | .invalidDigit => "invalid digit found in string"
  | .posOverflow => "number too large to fit in target type"

def digitValue (digit : Char) : Option ℕ :=
  if '0' ≤ digit ∧ digit ≤ '9' then some (digit.toNat - '0'.toNat) else none

/-- Continue a number whose digits so far denote `value`. -/
def accumulate (bound value : ℕ) : List Char → Except IntErrorKind ℕ
  | [] => .ok value
  | char :: rest =>
      match digitValue char with
      | none => .error .invalidDigit
      | some digit =>
          if value * 10 + digit < bound then accumulate bound (value * 10 + digit) rest
          else .error .posOverflow

/-- Read an unsigned number of the given width. -/
def parseUnsigned (bits : ℕ) (text : String) : Except IntErrorKind ℕ :=
  match text.toList with
  | [] => .error .empty
  | ['+'] => .error .invalidDigit
  | ['-'] => .error .invalidDigit
  | '+' :: digits => accumulate (2 ^ bits) 0 digits
  | digits => accumulate (2 ^ bits) 0 digits

theorem lt_of_accumulate {bound value number : ℕ} {digits : List Char} (start : value < bound)
    (read : accumulate bound value digits = .ok number) : number < bound := by
  induction digits generalizing value with
  | nil =>
      cases read
      exact start
  | cons char rest ih =>
      unfold accumulate at read
      split at read
      · cases read
      · split at read
        next fits => exact ih fits read
        next => cases read

/-- What is read fits the width. -/
theorem lt_of_parseUnsigned {bits number : ℕ} {text : String}
    (read : parseUnsigned bits text = .ok number) : number < 2 ^ bits := by
  unfold parseUnsigned at read
  split at read
  · cases read
  · cases read
  · cases read
  · exact lt_of_accumulate (by positivity) read
  · exact lt_of_accumulate (by positivity) read

/-! ## The texts that are read -/

/-- The text is an optional plus sign and one or more ASCII digits, which denote the number. -/
def Denotes (text : String) (number : ℕ) : Prop :=
  ∃ digits, (text.toList = digits ∨ text.toList = '+' :: digits) ∧ digits ≠ [] ∧
    (∀ char ∈ digits, char.isDigit) ∧ number = Nat.ofDigitChars 10 digits 0

theorem isDigit_iff {char : Char} : char.isDigit ↔ '0' ≤ char ∧ char ≤ '9' := by
  simp [Char.isDigit, Char.le_def]

theorem digitValue_of_isDigit {char : Char} (digit : char.isDigit) :
    digitValue char = some (char.toNat - '0'.toNat) := by
  rw [digitValue, if_pos (isDigit_iff.mp digit)]

theorem digitValue_of_not_isDigit {char : Char} (other : ¬ char.isDigit) :
    digitValue char = none := by
  rw [digitValue, if_neg fun range => other (isDigit_iff.mpr range)]

/-- Digits only add to a number. -/
theorem le_ofDigitChars (digits : List Char) (value : ℕ) :
    value ≤ Nat.ofDigitChars 10 digits value := by
  induction digits generalizing value with
  | nil => simp
  | cons char rest ih =>
      rw [Nat.ofDigitChars_cons]
      exact le_trans (by omega) (ih _)

theorem accumulate_eq_ok_iff {bound value number : ℕ} {digits : List Char} (start : value < bound) :
    accumulate bound value digits = .ok number ↔
      (∀ char ∈ digits, char.isDigit) ∧ number = Nat.ofDigitChars 10 digits value ∧
        number < bound := by
  induction digits generalizing value with
  | nil =>
      constructor
      · intro read
        cases read
        exact ⟨by simp, by simp, start⟩
      · rintro ⟨-, same, -⟩
        simp [accumulate, same]
  | cons char rest ih =>
      by_cases digit : char.isDigit
      · rw [accumulate, digitValue_of_isDigit digit, Nat.ofDigitChars_cons]
        have order : 10 * value + (char.toNat - '0'.toNat) =
            value * 10 + (char.toNat - '0'.toNat) := by omega
        by_cases fits : value * 10 + (char.toNat - '0'.toNat) < bound
        · simp only [if_pos fits]
          rw [ih fits, order]
          simp [digit]
        · simp only [if_neg fits]
          constructor
          · intro read
            cases read
          · rintro ⟨-, same, small⟩
            have grows := le_ofDigitChars rest (10 * value + (char.toNat - '0'.toNat))
            omega
      · rw [accumulate, digitValue_of_not_isDigit digit]
        constructor
        · intro read
          cases read
        · rintro ⟨digits, -, -⟩
          exact absurd (digits char List.mem_cons_self) digit

/-- A text is read as a number exactly if it denotes it and the number fits the width. -/
theorem parseUnsigned_eq_ok_iff {bits number : ℕ} {text : String} :
    parseUnsigned bits text = .ok number ↔ Denotes text number ∧ number < 2 ^ bits := by
  unfold parseUnsigned
  split
  next empty => simp [Denotes, empty]
  next sign => simp [Denotes, sign]
  next sign => simp [Denotes, sign]
  next digits empty sign =>
    have nonempty : digits ≠ [] := empty
    rw [accumulate_eq_ok_iff (by positivity)]
    simp [Denotes, sign, nonempty, and_assoc]
  next empty _ _ sign =>
    have nonempty : text.toList ≠ [] := empty
    have unsigned : ∀ digits, text.toList ≠ '+' :: digits := sign
    rw [accumulate_eq_ok_iff (by positivity)]
    simp only [Denotes, unsigned, or_false, exists_eq_left', nonempty, ne_eq, not_false_eq_true,
      true_and, and_assoc]

end Codec
