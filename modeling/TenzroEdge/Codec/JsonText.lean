import TenzroEdge.Codec.JsonRoundTrip

/-!
# Printed values are texts

What a value is printed as is well-formed UTF-8, so that a channel which carries texts carries
it. An object that is built by insertion is canonical when its members are, and gives each key
the value that was inserted last.
-/

namespace Codec

/-- The octets are the UTF-8 form of some text. -/
def IsText (bytes : Bytes) : Prop := ∃ text, bytes = utf8 text

theorem IsText.append {left right : Bytes} (isLeft : IsText left) (isRight : IsText right) :
    IsText (left ++ right) := by
  rcases isLeft with ⟨first, rfl⟩
  rcases isRight with ⟨second, rfl⟩
  exact ⟨first ++ second, (utf8_append first second).symm⟩

theorem IsText.flatMap {α : Type} {items : List α} {f : α → Bytes}
    (each : ∀ item ∈ items, IsText (f item)) : IsText (items.flatMap f) := by
  induction items with
  | nil => exact ⟨"", by simp [utf8]⟩
  | cons item rest ih =>
      rw [List.flatMap_cons]
      apply (each item (by simp)).append
      apply ih
      intro other mem
      exact each other (by simp [mem])

def IsAscii (bytes : Bytes) : Prop := ∀ octet ∈ bytes, octet.toNat < 128

theorem IsAscii.cons {first : UInt8} {rest : Bytes} (isFirst : first.toNat < 128)
    (isRest : IsAscii rest) : IsAscii (first :: rest) := by
  intro octet mem
  rcases List.mem_cons.mp mem with rfl | mem
  · exact isFirst
  · exact isRest octet mem

theorem IsAscii.nil : IsAscii [] := by
  intro octet mem
  cases mem

theorem IsAscii.append {left right : Bytes} (isLeft : IsAscii left) (isRight : IsAscii right) :
    IsAscii (left ++ right) := by
  intro octet mem
  rcases List.mem_append.mp mem with mem | mem
  · exact isLeft octet mem
  · exact isRight octet mem

theorem utf8EncodeChar_ascii :
    ∀ value < 128, String.utf8EncodeChar (Char.ofNat value) = [UInt8.ofNat value] := by
  decide

theorem IsAscii.isText {bytes : Bytes} (isAscii : IsAscii bytes) : IsText bytes := by
  refine ⟨String.ofList (bytes.map fun octet => Char.ofNat octet.toNat), ?_⟩
  rw [utf8_ofList, List.flatMap_map]
  have single : ∀ octet ∈ bytes,
      String.utf8EncodeChar (Char.ofNat octet.toNat) = [octet] := by
    intro octet mem
    rw [utf8EncodeChar_ascii _ (isAscii octet mem), UInt8.ofNat_toNat]
  rw [List.flatMap_congr single]
  simp

/-! ## Strings -/

namespace Json

theorem isAscii_digitChar : ∀ digit < 16, (ascii (Nat.digitChar digit)).toNat < 128 := by decide

theorem isAscii_escapeOctet {octet : UInt8} (low : octet.toNat < 128) :
    IsAscii (escapeOctet octet) := by
  have pair : ∀ first second : UInt8, first.toNat < 128 → second.toNat < 128 →
      IsAscii [first, second] :=
    fun first second isFirst isSecond => .cons isFirst (.cons isSecond .nil)
  unfold escapeOctet
  split_ifs with _ _ _ _ _ _ _ control
  any_goals exact pair _ _ (by decide) (by decide)
  · have small : octet.toNat < 32 := control
    have last := isAscii_digitChar (octet.toNat % 16) (by omega)
    have next := isAscii_digitChar (octet.toNat / 16) (by omega)
    exact .append (.cons (by decide) (.cons (by decide) (pair _ _ (by decide) (by decide))))
      (pair _ _ next last)
  · exact .cons low .nil

theorem escapeOctet_high {octet : UInt8} (high : 128 ≤ octet.toNat) :
    escapeOctet octet = [octet] := by
  have ne : ∀ low : UInt8, low.toNat < 128 → octet ≠ low := by
    rintro low isLow rfl
    omega
  have notControl : ¬ octet < 0x20 := by
    intro control
    have octet_lt : octet.toNat < 0x20 := UInt8.lt_iff_toNat_lt.mp control
    omega
  rw [escapeOctet, if_neg (ne _ (by decide)), if_neg (ne _ (by decide)), if_neg (ne _ (by decide)),
    if_neg (ne _ (by decide)), if_neg (ne _ (by decide)), if_neg (ne _ (by decide)),
    if_neg (ne _ (by decide)), if_neg notControl]

/-- A character beyond ASCII is encoded by octets beyond ASCII. -/
theorem high_of_utf8EncodeChar {char : Char} (high : 128 ≤ char.toNat) :
    ∀ octet ∈ String.utf8EncodeChar char, 128 ≤ octet.toNat := by
  change 128 ≤ char.val.toNat at high
  intro octet mem
  simp only [String.utf8EncodeChar] at mem
  rw [if_neg (by omega)] at mem
  split at mem
  · simp only [List.mem_cons, List.not_mem_nil, or_false] at mem
    rcases mem with rfl | rfl
    · simp only [UInt8.toNat_ofNat']
      omega
    · simp only [UInt8.toNat_ofNat']
      omega
  · split at mem
    · simp only [List.mem_cons, List.not_mem_nil, or_false] at mem
      rcases mem with rfl | rfl | rfl <;> simp only [UInt8.toNat_ofNat'] <;> omega
    · simp only [List.mem_cons, List.not_mem_nil, or_false] at mem
      rcases mem with rfl | rfl | rfl | rfl <;> simp only [UInt8.toNat_ofNat'] <;> omega

theorem isText_escape (text : String) : IsText (escape (utf8 text)) := by
  rw [← String.ofList_toList (s := text), utf8_ofList, escape, List.flatMap_assoc]
  apply IsText.flatMap
  intro char mem
  by_cases high : 128 ≤ char.toNat
  · have kept : (String.utf8EncodeChar char).flatMap escapeOctet =
        (String.utf8EncodeChar char).flatMap fun octet => [octet] := by
      apply List.flatMap_congr
      intro octet octetMem
      exact escapeOctet_high (high_of_utf8EncodeChar high octet octetMem)
    refine ⟨String.ofList [char], ?_⟩
    rw [kept, utf8_ofList]
    simp
  · apply IsAscii.isText
    have encoded := utf8EncodeChar_ascii char.toNat (not_le.mp high)
    rw [Char.ofNat_toNat] at encoded
    rw [encoded, List.flatMap_singleton]
    apply isAscii_escapeOctet
    rw [UInt8.toNat_ofNat']
    omega

end Json

/-! ## Numbers -/

theorem isAscii_of_isDigit {digits : Bytes} (areDigits : ∀ digit ∈ digits, isDigit digit = true) :
    IsAscii digits := by
  intro digit digitMem
  have isDigit := areDigits digit digitMem
  simp only [Codec.isDigit, Bool.and_eq_true, decide_eq_true_eq] at isDigit
  have digit_le : digit.toNat ≤ (ascii '9').toNat := UInt8.le_iff_toNat_le.mp isDigit.2
  have nine : (ascii '9').toNat = 57 := by decide
  omega

namespace Numeral

theorem isAscii_writeFraction {digits : Bytes}
    (areDigits : ∀ digit ∈ digits, isDigit digit = true) : IsAscii (writeFraction digits) := by
  cases digits with
  | nil => exact .nil
  | cons digit more => exact .cons (by decide) (isAscii_of_isDigit areDigits)

theorem isAscii_writeExponent {exponent : Option (Bool × Bytes)}
    (areDigits : ∀ parts ∈ exponent, ∀ digit ∈ parts.2, isDigit digit = true) :
    IsAscii (writeExponent exponent) := by
  cases exponent with
  | none => exact .nil
  | some parts =>
      have digits := isAscii_of_isDigit (areDigits parts rfl)
      rcases parts with ⟨_ | _, _⟩
      · exact .cons (by decide) (.cons (by decide) digits)
      · exact .cons (by decide) (.cons (by decide) digits)

theorem isText_write {numeral : Numeral} (written : numeral.Written) : IsText numeral.write := by
  rcases written.integer with ⟨value, integer⟩
  have sign : IsAscii (if numeral.negative then [ascii '-'] else []) := by
    cases numeral.negative with
    | false => exact .nil
    | true => exact .cons (by decide) .nil
  have digits : IsAscii numeral.integer := by
    rw [integer]
    exact isAscii_of_isDigit isDigit_of_mem_natDigits
  have fraction := isAscii_writeFraction written.fraction
  have exponent := isAscii_writeExponent fun parts mem => (written.exponent parts mem).2
  exact (sign.append (digits.append (fraction.append exponent))).isText

end Numeral

/-! ## Values -/

namespace Json

theorem isText_printString (text : String) : IsText (printString text) := by
  have quote : IsText [ascii '"'] := ⟨"\"", by decide⟩
  exact quote.append ((isText_escape text).append quote)

mutual

theorem isText_print : (value : Json) → IsText value.print
  | .null => ⟨"null", rfl⟩
  | .bool true => ⟨"true", rfl⟩
  | .bool false => ⟨"false", rfl⟩
  | .int value => by
      rw [print]
      exact Numeral.isText_write (Numeral.written_ofInt value)
  | .double value => by
      rw [print]
      exact Numeral.isText_write (Numeral.written_ofDouble value)
  | .string text => by
      rw [print]
      exact isText_printString text
  | .array [] => ⟨"[]", rfl⟩
  | .array (item :: rest) => by
      have opening : IsText [ascii '['] := ⟨"[", rfl⟩
      rw [print]
      exact opening.append ((isText_print item).append (isText_printItems rest))
  | .object [] => ⟨"\x7b\x7d", rfl⟩
  | .object ((key, value) :: rest) => by
      have opening : IsText [ascii '{'] := ⟨"\x7b", rfl⟩
      have colon : IsText [ascii ':'] := ⟨":", rfl⟩
      rw [print]
      exact opening.append ((isText_printString key).append (colon.append
        ((isText_print value).append (isText_printMembers rest))))

theorem isText_printItems : (items : List Json) → IsText (printItems items)
  | [] => ⟨"]", rfl⟩
  | item :: rest => by
      have comma : IsText [ascii ','] := ⟨",", rfl⟩
      rw [printItems]
      exact comma.append ((isText_print item).append (isText_printItems rest))

theorem isText_printMembers : (members : List (String × Json)) → IsText (printMembers members)
  | [] => ⟨"\x7d", rfl⟩
  | (key, value) :: rest => by
      have comma : IsText [ascii ','] := ⟨",", rfl⟩
      have colon : IsText [ascii ':'] := ⟨":", rfl⟩
      rw [printMembers]
      exact comma.append ((isText_printString key).append (colon.append
        ((isText_print value).append (isText_printMembers rest))))

end

/-- A value that is nested too deep is printed, but not read. -/
theorem parse_print_deep (value : Json) (deep : 127 < value.depth) :
    Json.parse value.print = none := by
  rw [Json.parse, RawJson.parse_print value, Option.bind_some, depth_raw,
    if_neg (not_le.mpr deep)]

/-! ## Members of an object -/

/-- A member that is inserted is found under its key, and hides no other. -/
theorem get?_insertMember (key other : String) (value : Json) (members : List (String × Json)) :
    (object (insertMember other value members)).get? key =
      if key = other then some value else (object members).get? key := by
  induction members with
  | nil => simp [insertMember]
  | cons member rest ih =>
      rcases member with ⟨third, old⟩
      rw [insertMember]
      split
      next replaced =>
        subst replaced
        by_cases same : key = other
        · simp [same]
        · simp [same]
      next distinct =>
        split
        next before => rw [get?_cons]
        next behind =>
          rw [get?_cons, get?_cons, ih]
          by_cases found : key = third
          · simp [found, Ne.symm distinct]
          · simp [found]

theorem mem_insertMember {key : String} {value : Json} {members : List (String × Json)}
    {member : String × Json} (mem : member ∈ insertMember key value members) :
    member.1 = key ∨ member ∈ members := by
  induction members with
  | nil =>
      rw [List.mem_singleton.mp mem]
      exact .inl rfl
  | cons first rest ih =>
      rcases first with ⟨other, old⟩
      rw [insertMember] at mem
      split at mem
      · rcases List.mem_cons.mp mem with rfl | mem
        · exact .inl rfl
        · exact .inr (List.mem_cons_of_mem _ mem)
      · split at mem
        · rcases List.mem_cons.mp mem with rfl | mem
          · exact .inl rfl
          · exact .inr mem
        · rcases List.mem_cons.mp mem with rfl | mem
          · exact .inr List.mem_cons_self
          · rcases ih mem with same | mem
            · exact .inl same
            · exact .inr (List.mem_cons_of_mem _ mem)

/-- The keys are in ascending order, so that no key occurs twice. -/
def Ascending (members : List (String × Json)) : Prop := (members.map Prod.fst).Pairwise (· < ·)

theorem Ascending.insertMember {members : List (String × Json)} (ascending : Ascending members)
    (key : String) (value : Json) : Ascending (insertMember key value members) := by
  induction members with
  | nil => simp [Ascending, Json.insertMember]
  | cons first rest ih =>
      rcases first with ⟨other, old⟩
      rw [Ascending, List.map_cons, List.pairwise_cons] at ascending
      rw [Json.insertMember]
      split
      next replaced =>
        subst replaced
        rw [Ascending, List.map_cons, List.pairwise_cons]
        exact ascending
      next distinct =>
        split
        next before =>
          rw [Ascending, List.map_cons, List.pairwise_cons, List.map_cons, List.pairwise_cons]
          refine ⟨?_, ascending⟩
          intro later mem
          rcases List.mem_cons.mp mem with rfl | mem
          · exact before
          · exact before.trans (ascending.1 later mem)
        next behind =>
          rw [Ascending, List.map_cons, List.pairwise_cons]
          refine ⟨?_, ih ascending.2⟩
          intro later mem
          rcases List.mem_map.mp mem with ⟨member, inserted, rfl⟩
          rcases mem_insertMember inserted with same | kept
          · rw [same]
            exact lt_of_le_of_ne (not_lt.mp behind) (Ne.symm distinct)
          · exact ascending.1 member.1 (List.mem_map_of_mem kept)

end Json

/-- A value as a program holds it: what it is printed as stands for it. -/
structure JsonValue where
  json : Json
  canonical : json.Canonical

/-- The members of an object, which are a map. -/
structure JsonMap where
  members : List (String × Json)
  ascending : Json.Ascending members

namespace JsonMap

def empty : JsonMap where
  members := []
  ascending := List.Pairwise.nil

/-- Insert a member, which takes the place of one with the same key. -/
def insert (key : String) (value : Json) (map : JsonMap) : JsonMap where
  members := Json.insertMember key value map.members
  ascending := map.ascending.insertMember key value

def get? (key : String) (map : JsonMap) : Option Json := (Json.object map.members).get? key

@[simp]
theorem get?_empty (key : String) : empty.get? key = none := rfl

@[simp]
theorem get?_insert (key other : String) (value : Json) (map : JsonMap) :
    (map.insert other value).get? key = if key = other then some value else map.get? key :=
  Json.get?_insertMember key other value map.members

end JsonMap

end Codec
