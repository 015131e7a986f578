import TenzroEdge.Codec.Json

/-!
# Reading back what was printed

`Json.parse_print` inverts the printer on every canonical value: integers within
64 bits, doubles that are the ones their digits are read as, and objects ordered
by key. The proof follows the two stages of the reader. `RawJson.parse_print`
needs no canonical form; it finds, for every value, the tree `raw` of the tokens
that were printed.
-/

namespace Codec

namespace RawJson

open Json

/-! ## Strings -/

theorem hexOctet_digitChar :
    ∀ value < 16, hexOctet (ascii (Nat.digitChar value)) = some value := by
  decide

/-- How an octet is written in a string. -/
inductive Escaped (octet : UInt8) : Bytes → Prop where
  | letter {letter : UInt8} (escape : isEscape letter = true) (notNumeric : letter ≠ ascii 'u')
      (stands : escapedOctet letter = some octet) : Escaped octet [ascii '\\', letter]
  | numeric (control : octet < 0x20) : Escaped octet [ascii '\\', ascii 'u', ascii '0', ascii '0',
      ascii (Nat.digitChar (octet.toNat / 16)), ascii (Nat.digitChar (octet.toNat % 16))]
  | plain (quote : octet ≠ ascii '"') (backslash : octet ≠ ascii '\\')
      (control : ¬octet < 0x20) : Escaped octet [octet]

theorem escaped_escapeOctet (octet : UInt8) : Escaped octet (escapeOctet octet) := by
  unfold escapeOctet
  split_ifs with quote backslash backspace tab newline feed carriageReturn control
  · exact .letter (by decide) (by decide) (by rw [quote]; decide)
  · exact .letter (by decide) (by decide) (by rw [backslash]; decide)
  · exact .letter (by decide) (by decide) (by rw [backspace]; decide)
  · exact .letter (by decide) (by decide) (by rw [tab]; decide)
  · exact .letter (by decide) (by decide) (by rw [newline]; decide)
  · exact .letter (by decide) (by decide) (by rw [feed]; decide)
  · exact .letter (by decide) (by decide) (by rw [carriageReturn]; decide)
  · exact .numeric control
  · exact .plain quote backslash control

theorem scanString_quote (rest : Bytes) : scanString (ascii '"' :: rest) = some ([], rest) := by
  rw [scanString.eq_def]
  rfl

theorem scanString_plain {first : UInt8} (quote : first ≠ ascii '"')
    (backslash : first ≠ ascii '\\') (control : ¬first < 0x20) (rest : Bytes) :
    scanString (first :: rest) =
      (scanString rest).map fun scanned => (first :: scanned.1, scanned.2) := by
  rw [scanString.eq_def]
  simp only [if_neg quote, if_neg backslash, if_neg control]

theorem scanString_letter {letter : UInt8} (escape : isEscape letter = true)
    (notNumeric : letter ≠ ascii 'u') (rest : Bytes) :
    scanString (ascii '\\' :: letter :: rest) =
      (scanString rest).map fun scanned => (ascii '\\' :: letter :: scanned.1, scanned.2) := by
  rw [scanString.eq_def]
  simp only [if_neg (show ascii '\\' ≠ ascii '"' by decide), if_true, if_neg notNumeric, escape]

theorem scanString_numeric {d₁ d₂ d₃ d₄ : UInt8}
    (digits : [d₁, d₂, d₃, d₄].all fun digit => (hexOctet digit).isSome) (rest : Bytes) :
    scanString (ascii '\\' :: ascii 'u' :: d₁ :: d₂ :: d₃ :: d₄ :: rest) =
      (scanString rest).map fun scanned =>
        (ascii '\\' :: ascii 'u' :: d₁ :: d₂ :: d₃ :: d₄ :: scanned.1, scanned.2) := by
  rw [scanString.eq_def]
  simp only [if_neg (show ascii '\\' ≠ ascii '"' by decide), if_true, digits]

theorem scanString_escapeOctet (octet : UInt8) (rest : Bytes) :
    scanString (escapeOctet octet ++ rest) =
      (scanString rest).map fun scanned => (escapeOctet octet ++ scanned.1, scanned.2) := by
  have octet_lt : octet.toNat < 256 := octet.toNat_lt
  have escaped : Escaped octet (escapeOctet octet) := escaped_escapeOctet octet
  generalize escapeOctet octet = written at escaped ⊢
  cases escaped with
  | letter escape notNumeric => exact scanString_letter escape notNumeric rest
  | numeric =>
      apply scanString_numeric
      have zero : (hexOctet (ascii '0')).isSome = true := by decide
      simp [zero, hexOctet_digitChar (octet.toNat / 16) (by omega),
        hexOctet_digitChar (octet.toNat % 16) (by omega)]
  | plain quote backslash control => exact scanString_plain quote backslash control rest

theorem scanString_escape (bytes rest : Bytes) :
    scanString (escape bytes ++ ascii '"' :: rest) = some (escape bytes, rest) := by
  induction bytes with
  | nil => exact scanString_quote rest
  | cons octet more ih =>
      have split : escape (octet :: more) = escapeOctet octet ++ escape more := rfl
      rw [split, List.append_assoc, scanString_escapeOctet, ih]
      rfl

theorem unescape_plain {first : UInt8} (backslash : first ≠ ascii '\\') (rest : Bytes) :
    unescape (first :: rest) = (unescape rest).map (first :: ·) := by
  rw [unescape.eq_def]
  simp only [if_neg backslash]
  cases unescape rest <;> rfl

theorem unescape_letter {letter octet : UInt8} (escaped : escapedOctet letter = some octet)
    (notNumeric : letter ≠ ascii 'u') (rest : Bytes) :
    unescape (ascii '\\' :: letter :: rest) = (unescape rest).map (octet :: ·) := by
  rw [unescape.eq_def]
  simp only [if_true, if_neg notNumeric, escaped]
  cases unescape rest <;> rfl

theorem unescape_numeric {d₁ d₂ d₃ d₄ : UInt8} {unit : ℕ}
    (digits : codeUnit d₁ d₂ d₃ d₄ = some unit) (ordinary : unit < 0xD800) (rest : Bytes) :
    unescape (ascii '\\' :: ascii 'u' :: d₁ :: d₂ :: d₃ :: d₄ :: rest) =
      (unescape rest).map (String.utf8EncodeChar (Char.ofNat unit) ++ ·) := by
  rw [unescape.eq_def]
  simp only [if_true, digits, Option.bind_eq_bind, Option.bind_some]
  rw [if_neg (by omega), if_neg (by omega)]
  cases unescape rest <;> rfl

theorem utf8EncodeChar_control :
    ∀ value < 0x20, String.utf8EncodeChar (Char.ofNat value) = [UInt8.ofNat value] := by
  decide

theorem unescape_escapeOctet (octet : UInt8) (rest : Bytes) :
    unescape (escapeOctet octet ++ rest) = (unescape rest).map (octet :: ·) := by
  have escaped : Escaped octet (escapeOctet octet) := escaped_escapeOctet octet
  generalize escapeOctet octet = written at escaped ⊢
  cases escaped with
  | letter escape notNumeric stands => exact unescape_letter stands notNumeric rest
  | numeric control =>
      have octet_lt : octet.toNat < 0x20 := UInt8.lt_iff_toNat_lt.mp control
      have unit : codeUnit (ascii '0') (ascii '0') (ascii (Nat.digitChar (octet.toNat / 16)))
          (ascii (Nat.digitChar (octet.toNat % 16))) = some octet.toNat := by
        have zero : hexOctet (ascii '0') = some 0 := by decide
        simp only [codeUnit, zero, hexOctet_digitChar (octet.toNat / 16) (by omega),
          hexOctet_digitChar (octet.toNat % 16) (by omega), Option.bind_eq_bind, Option.bind_some]
        congr 1
        omega
      have decoded := unescape_numeric unit (by omega) rest
      rw [utf8EncodeChar_control _ octet_lt, UInt8.ofNat_toNat] at decoded
      exact decoded
  | plain quote backslash => exact unescape_plain backslash rest

theorem unescape_escape (bytes : Bytes) : unescape (escape bytes) = some bytes := by
  induction bytes with
  | nil => rfl
  | cons octet more ih =>
      have split : escape (octet :: more) = escapeOctet octet ++ escape more := rfl
      rw [split, unescape_escapeOctet, ih]
      rfl

@[simp]
theorem text?_escape_utf8 (text : String) : text? (escape (utf8 text)) = some text := by
  simp [text?, unescape_escape]

/-! ## Numbers -/

/-- What follows a value inside an array or an object, or at the end of a text. -/
def Boundary (rest : Bytes) : Prop :=
  ∀ next ∈ rest.head?, next = ascii ',' ∨ next = ascii ']' ∨ next = ascii '}'

theorem Boundary.nil : Boundary [] := by
  intro next impossible
  cases impossible

theorem Boundary.cons {next : UInt8} {rest : Bytes}
    (closing : next = ascii ',' ∨ next = ascii ']' ∨ next = ascii '}') :
    Boundary (next :: rest) := by
  intro other same
  cases same
  exact closing

/-- No number goes on across a boundary. -/
theorem Boundary.ends {rest : Bytes} (boundary : Boundary rest) : Numeral.Ends rest := by
  intro next nextMem
  rcases boundary next nextMem with rfl | rfl | rfl <;> decide

end RawJson

/-! ## Values -/

namespace Json

mutual

/-- The tree of tokens that printing a value writes. -/
def raw : Json → RawJson
  | .null => .null
  | .bool value => .bool value
  | .int value => .number (.ofInt value)
  | .double value => .number (.ofDouble value)
  | .string text => .string (escape (utf8 text))
  | .array items => .array (rawItems items)
  | .object members => .object (rawMembers members)

def rawItems : List Json → List RawJson
  | [] => []
  | item :: rest => raw item :: rawItems rest

def rawMembers : List (String × Json) → List (Bytes × RawJson)
  | [] => []
  | (key, value) :: rest => (escape (utf8 key), raw value) :: rawMembers rest

end

mutual

/-- The number of values and separators, which bounds the depth of reading. -/
def size : Json → ℕ
  | .array items => sizeItems items + 1
  | .object members => sizeMembers members + 1
  | _ => 1

def sizeItems : List Json → ℕ
  | [] => 0
  | item :: rest => size item + sizeItems rest + 1

def sizeMembers : List (String × Json) → ℕ
  | [] => 0
  | (_, value) :: rest => size value + sizeMembers rest + 1

end

end Json

namespace RawJson

open Json

theorem skipSpace_cons {first : UInt8} (notSpace : isSpace first = false) (rest : Bytes) :
    skipSpace (first :: rest) = first :: rest := by
  simp [skipSpace, notSpace]

/-- The octets a value may begin with: none is white space or closes an array or an object. -/
def Opening (first : UInt8) : Prop :=
  isSpace first = false ∧ first ≠ ascii ']' ∧ first ≠ ascii '}'

theorem opening_of_number {first : UInt8}
    (leading : first = ascii '-' ∨ isDigit first = true) : Opening first := by
  rcases leading with rfl | isDigit
  · exact ⟨by decide, by decide, by decide⟩
  · refine ⟨?_, ?_, ?_⟩
    · cases space : isSpace first with
      | false => rfl
      | true =>
          simp only [isSpace, Bool.or_eq_true, decide_eq_true_eq] at space
          rcases space with ((rfl | rfl) | rfl) | rfl <;> exact absurd isDigit (by decide)
    · rintro rfl
      exact absurd isDigit (by decide)
    · rintro rfl
      exact absurd isDigit (by decide)

theorem print_opening (value : Json) :
    ∃ first more, value.print = first :: more ∧ Opening first := by
  cases value with
  | null => exact ⟨ascii 'n', utf8 "ull", by decide, by decide, by decide, by decide⟩
  | bool value =>
      cases value with
      | true => exact ⟨ascii 't', utf8 "rue", by decide, by decide, by decide, by decide⟩
      | false => exact ⟨ascii 'f', utf8 "alse", by decide, by decide, by decide, by decide⟩
  | int value =>
      rcases Numeral.write_eq_cons (Numeral.written_ofInt value) with
        ⟨first, more, written, leading⟩
      exact ⟨first, more, by rw [print, written], opening_of_number leading⟩
  | double value =>
      rcases Numeral.write_eq_cons (Numeral.written_ofDouble value) with
        ⟨first, more, written, leading⟩
      exact ⟨first, more, by rw [print, written], opening_of_number leading⟩
  | string text => exact ⟨_, _, by rw [print, printString], by decide, by decide, by decide⟩
  | array items => cases items <;> exact ⟨_, _, by rw [print], by decide, by decide, by decide⟩
  | object members =>
      rcases members with _ | ⟨⟨key, value⟩, rest⟩ <;>
        exact ⟨_, _, by rw [print], by decide, by decide, by decide⟩

theorem boundary_printItems (items : List Json) (rest : Bytes) :
    Boundary (printItems items ++ rest) := by
  cases items with
  | nil => exact Boundary.cons (.inr (.inl rfl))
  | cons item more => exact Boundary.cons (.inl rfl)

theorem boundary_printMembers (members : List (String × Json)) (rest : Bytes) :
    Boundary (printMembers members ++ rest) := by
  rcases members with _ | ⟨⟨key, value⟩, more⟩
  · exact Boundary.cons (.inr (.inr rfl))
  · exact Boundary.cons (.inl rfl)

theorem parseValue_string (fuel : ℕ) (text : String) (rest : Bytes) :
    parseValue (fuel + 1) (printString text ++ rest) =
      some (.string (escape (utf8 text)), rest) := by
  rw [printString, List.cons_append, List.append_assoc, parseValue,
    skipSpace_cons (by decide)]
  simp only [if_true, List.singleton_append, scanString_escape]
  rfl

theorem parseValue_number (fuel : ℕ) {numeral : Numeral} {rest : Bytes}
    (written : numeral.Written) (boundary : Boundary rest) :
    parseValue (fuel + 1) (numeral.write ++ rest) = some (.number numeral, rest) := by
  have scanned := Numeral.scan_write written boundary.ends
  rcases Numeral.write_eq_cons written with ⟨first, more, cons, leading⟩
  have other (letter : UInt8) (notDigit : isDigit letter = false) (notMinus : letter ≠ ascii '-') :
      first ≠ letter := by
    rintro rfl
    rcases leading with same | isDigit
    · exact notMinus same
    · rw [notDigit] at isDigit
      cases isDigit
  rw [cons, List.cons_append] at scanned ⊢
  rw [parseValue, skipSpace_cons (opening_of_number leading).1]
  simp only [if_neg (other (ascii '"') (by decide) (by decide)),
    if_neg (other (ascii '[') (by decide) (by decide)),
    if_neg (other (ascii '{') (by decide) (by decide)),
    if_neg (other (ascii 'n') (by decide) (by decide)),
    if_neg (other (ascii 't') (by decide) (by decide)),
    if_neg (other (ascii 'f') (by decide) (by decide)), scanned]
  rfl

theorem parseValue_word (fuel : ℕ) (rest : Bytes) :
    parseValue (fuel + 1) (utf8 "null" ++ rest) = some (.null, rest) ∧
      parseValue (fuel + 1) (utf8 "true" ++ rest) = some (.bool true, rest) ∧
      parseValue (fuel + 1) (utf8 "false" ++ rest) = some (.bool false, rest) := by
  refine ⟨?_, ?_, ?_⟩
  · rw [show utf8 "null" = ascii 'n' :: utf8 "ull" by decide, List.cons_append, parseValue,
      skipSpace_cons (by decide)]
    simp [afterWord, show ascii 'n' ≠ ascii '"' by decide, show ascii 'n' ≠ ascii '[' by decide,
      show ascii 'n' ≠ ascii '{' by decide]
  · rw [show utf8 "true" = ascii 't' :: utf8 "rue" by decide, List.cons_append, parseValue,
      skipSpace_cons (by decide)]
    simp [afterWord, show ascii 't' ≠ ascii '"' by decide, show ascii 't' ≠ ascii '[' by decide,
      show ascii 't' ≠ ascii '{' by decide, show ascii 't' ≠ ascii 'n' by decide]
  · rw [show utf8 "false" = ascii 'f' :: utf8 "alse" by decide, List.cons_append, parseValue,
      skipSpace_cons (by decide)]
    simp [afterWord, show ascii 'f' ≠ ascii '"' by decide, show ascii 'f' ≠ ascii '[' by decide,
      show ascii 'f' ≠ ascii '{' by decide, show ascii 'f' ≠ ascii 'n' by decide,
      show ascii 'f' ≠ ascii 't' by decide]

theorem size_pos (value : Json) : 0 < value.size := by
  cases value <;> simp [size]

/-- With this bound, reading what was printed finds the tokens, and stops behind them. -/
structure Reads (fuel : ℕ) : Prop where
  value : ∀ (value : Json) (rest : Bytes), value.size ≤ fuel → Boundary rest →
    parseValue fuel (value.print ++ rest) = some (value.raw, rest)
  items : ∀ (item : Json) (more : List Json) (rest : Bytes),
    item.size + sizeItems more + 1 ≤ fuel →
    parseItems fuel (item.print ++ printItems more ++ rest) =
      some (item.raw :: rawItems more, rest)
  members : ∀ (key : String) (value : Json) (more : List (String × Json)) (rest : Bytes),
    value.size + sizeMembers more + 1 ≤ fuel →
    parseMembers fuel (printString key ++ ascii ':' :: (value.print ++ printMembers more) ++ rest) =
      some ((escape (utf8 key), value.raw) :: rawMembers more, rest)

namespace Reads

variable {fuel : ℕ}

theorem value_succ (reads : Reads fuel) (value : Json) (rest : Bytes)
    (enough : value.size ≤ fuel + 1) (boundary : Boundary rest) :
    parseValue (fuel + 1) (value.print ++ rest) = some (value.raw, rest) := by
  cases value with
  | null => exact (parseValue_word fuel rest).1
  | bool value =>
      cases value with
      | true => exact (parseValue_word fuel rest).2.1
      | false => exact (parseValue_word fuel rest).2.2
  | int value => exact parseValue_number fuel (Numeral.written_ofInt value) boundary
  | double value => exact parseValue_number fuel (Numeral.written_ofDouble value) boundary
  | string text => exact parseValue_string fuel text rest
  | array items =>
      cases items with
      | nil =>
          rw [print, parseValue, List.cons_append, skipSpace_cons (by decide)]
          rfl
      | cons item more =>
          rw [size, sizeItems] at enough
          rcases print_opening item with ⟨first, text, printed, opening⟩
          have items := reads.items item more rest (by omega)
          rw [print, List.cons_append, parseValue, skipSpace_cons (by decide)]
          rw [printed, List.cons_append, List.cons_append] at items ⊢
          simp only [if_neg (show ascii '[' ≠ ascii '"' by decide), if_true,
            skipSpace_cons opening.1, if_neg opening.2.1, items]
          rfl
  | object members =>
      rcases members with _ | ⟨⟨key, value⟩, more⟩
      · rw [print, parseValue, List.cons_append, skipSpace_cons (by decide)]
        rfl
      · rw [size, sizeMembers] at enough
        have members := reads.members key value more rest (by omega)
        rw [print, List.cons_append, parseValue, skipSpace_cons (by decide)]
        rw [printString, List.cons_append, List.cons_append] at members ⊢
        simp only [if_neg (show ascii '{' ≠ ascii '"' by decide),
          if_neg (show ascii '{' ≠ ascii '[' by decide), if_true,
          skipSpace_cons (show isSpace (ascii '"') = false by decide),
          if_neg (show ascii '"' ≠ ascii '}' by decide), members]
        rfl

theorem items_succ (reads : Reads fuel) (item : Json) (more : List Json) (rest : Bytes)
    (enough : item.size + sizeItems more + 1 ≤ fuel + 1) :
    parseItems (fuel + 1) (item.print ++ printItems more ++ rest) =
      some (item.raw :: rawItems more, rest) := by
  have read := reads.value item _ (by omega) (boundary_printItems more rest)
  rw [List.append_assoc, parseItems, read]
  cases more with
  | nil =>
      rw [printItems, List.cons_append, Option.bind_eq_bind, Option.bind_some]
      simp only [skipSpace_cons (show isSpace (ascii ']') = false by decide), if_true]
      rfl
  | cons next more =>
      rw [sizeItems] at enough
      have items := reads.items next more rest (by omega)
      rw [printItems, List.cons_append, Option.bind_eq_bind, Option.bind_some]
      simp only [skipSpace_cons (show isSpace (ascii ',') = false by decide),
        if_neg (show ascii ',' ≠ ascii ']' by decide), if_true, items]
      rfl

theorem members_succ (reads : Reads fuel) (key : String) (value : Json)
    (more : List (String × Json)) (rest : Bytes)
    (enough : value.size + sizeMembers more + 1 ≤ fuel + 1) :
    parseMembers (fuel + 1)
        (printString key ++ ascii ':' :: (value.print ++ printMembers more) ++ rest) =
      some ((escape (utf8 key), value.raw) :: rawMembers more, rest) := by
  have read := reads.value value _ (by omega) (boundary_printMembers more rest)
  rw [printString, List.cons_append, List.cons_append, parseMembers, skipSpace_cons (by decide)]
  simp only [if_true, List.append_assoc, List.cons_append, List.nil_append, scanString_escape,
    Option.bind_eq_bind, Option.bind_some,
    skipSpace_cons (show isSpace (ascii ':') = false by decide), read]
  rcases more with _ | ⟨⟨nextKey, next⟩, more⟩
  · rw [printMembers, List.cons_append]
    simp only [skipSpace_cons (show isSpace (ascii '}') = false by decide), if_true]
    rfl
  · rw [sizeMembers] at enough
    have members := reads.members nextKey next more rest (by omega)
    rw [printMembers, List.cons_append]
    simp only [skipSpace_cons (show isSpace (ascii ',') = false by decide),
      if_neg (show ascii ',' ≠ ascii '}' by decide), if_true, members]
    rfl

end Reads

theorem reads (fuel : ℕ) : Reads fuel := by
  induction fuel with
  | zero =>
      constructor
      · intro value rest enough
        have := size_pos value
        omega
      · intro item more rest enough
        omega
      · intro key value more rest enough
        omega
  | succ fuel ih =>
      exact ⟨ih.value_succ, ih.items_succ, ih.members_succ⟩

mutual

theorem size_le_length_print : (value : Json) → value.size ≤ value.print.length
  | .null => by decide
  | .bool true => by decide
  | .bool false => by decide
  | .int value => by
      rcases Numeral.write_eq_cons (Numeral.written_ofInt value) with ⟨first, more, written, -⟩
      simp [size, print, written]
  | .double value => by
      rcases Numeral.write_eq_cons (Numeral.written_ofDouble value) with ⟨first, more, written, -⟩
      simp [size, print, written]
  | .string text => by simp [size, print, printString]
  | .array [] => by simp [size, sizeItems, print]
  | .array (item :: rest) => by
      have head := size_le_length_print item
      have tail := sizeItems_lt_length_printItems rest
      simp only [size, sizeItems, print, List.length_cons, List.length_append]
      omega
  | .object [] => by simp [size, sizeMembers, print]
  | .object ((key, value) :: rest) => by
      have head := size_le_length_print value
      have tail := sizeMembers_lt_length_printMembers rest
      simp only [size, sizeMembers, print, List.length_cons, List.length_append]
      omega

theorem sizeItems_lt_length_printItems : (items : List Json) →
    sizeItems items < (printItems items).length
  | [] => by simp [sizeItems, printItems]
  | item :: rest => by
      have head := size_le_length_print item
      have tail := sizeItems_lt_length_printItems rest
      simp only [sizeItems, printItems, List.length_cons, List.length_append]
      omega

theorem sizeMembers_lt_length_printMembers : (members : List (String × Json)) →
    sizeMembers members < (printMembers members).length
  | [] => by simp [sizeMembers, printMembers]
  | (key, value) :: rest => by
      have head := size_le_length_print value
      have tail := sizeMembers_lt_length_printMembers rest
      simp only [sizeMembers, printMembers, List.length_cons, List.length_append]
      omega

end

/-- Reading a printed value finds the tokens that were printed. -/
theorem parse_print (value : Json) : parse value.print = some value.raw := by
  have enough := size_le_length_print value
  have read := (reads (value.print.length + 1)).value value [] (by omega) Boundary.nil
  rw [List.append_nil] at read
  simp [parse, read, skipSpace]

end RawJson

/-! ## Canonical values -/

namespace Json

mutual

/-- Integers have 64 bits, doubles are read as themselves, and keys are ascending. -/
def Canonical : Json → Prop
  | .int value => -2 ^ 63 ≤ value ∧ value < 2 ^ 64
  | .double value => RawJson.numberValue (.ofDouble value) = some (.double value)
  | .array items => CanonicalItems items
  | .object members => CanonicalMembers members ∧ (members.map Prod.fst).Pairwise (· < ·)
  | _ => True

def CanonicalItems : List Json → Prop
  | [] => True
  | item :: rest => Canonical item ∧ CanonicalItems rest

def CanonicalMembers : List (String × Json) → Prop
  | [] => True
  | (_, value) :: rest => Canonical value ∧ CanonicalMembers rest

end

theorem insertMember_nil (key : String) (value : Json) :
    insertMember key value [] = [(key, value)] := rfl

theorem insertMember_of_lt {key other : String} {value old : Json}
    {rest : List (String × Json)} (before : key < other) :
    insertMember key value ((other, old) :: rest) = (key, value) :: (other, old) :: rest := by
  rw [insertMember, if_neg (ne_of_lt before), if_pos before]

theorem insertMember_of_gt {key other : String} {value old : Json}
    {rest : List (String × Json)} (behind : other < key) :
    insertMember key value ((other, old) :: rest) =
      (other, old) :: insertMember key value rest := by
  rw [insertMember, if_neg (ne_of_gt behind), if_neg (not_lt_of_gt behind)]

theorem insertMember_last {key : String} {value : Json} {members : List (String × Json)}
    (last : ∀ member ∈ members, member.1 < key) :
    insertMember key value members = members ++ [(key, value)] := by
  induction members with
  | nil => rfl
  | cons member rest ih =>
      have above := last member (by simp)
      rw [insertMember_of_gt above, ih fun other otherMem => last other (by simp [otherMem])]
      rfl

theorem foldl_insertMember {before members : List (String × Json)}
    (ascending : ((before ++ members).map Prod.fst).Pairwise (· < ·)) :
    members.foldl (fun object member => insertMember member.1 member.2 object) before =
      before ++ members := by
  induction members generalizing before with
  | nil => simp
  | cons member rest ih =>
      have last : ∀ other ∈ before, other.1 < member.1 := by
        intro other otherMem
        rw [List.map_append, List.pairwise_append] at ascending
        exact ascending.2.2 other.1 (List.mem_map_of_mem otherMem) member.1 (by simp)
      rw [List.foldl_cons, insertMember_last last, ih (by simpa using ascending)]
      simp

/-- An object with ascending keys is built from its own members. -/
theorem ofMembers_ascending {members : List (String × Json)}
    (ascending : (members.map Prod.fst).Pairwise (· < ·)) :
    ofMembers members = .object members := by
  rw [ofMembers, foldl_insertMember (by simpa using ascending), List.nil_append]

end Json

/-- A text whose characters need no escape is printed as it is. -/
theorem Json.escape_utf8_ofList {chars : List Char}
    (plain : ∀ char ∈ chars, escape (String.utf8EncodeChar char) = String.utf8EncodeChar char) :
    escape (utf8 (String.ofList chars)) = utf8 (String.ofList chars) := by
  rw [utf8_ofList, escape, List.flatMap_assoc]
  exact List.flatMap_congr plain

namespace RawJson

open Json

mutual

theorem value?_raw : (value : Json) → value.Canonical → value? value.raw = some value
  | .null, _ => rfl
  | .bool _, _ => rfl
  | .int value, canonical => by
      rw [Canonical] at canonical
      rw [raw, value?, numberValue, Numeral.integer?_ofInt canonical.1 canonical.2]
  | .double value, canonical => by
      rw [Canonical] at canonical
      rw [raw, value?, canonical]
  | .string text, _ => by rw [raw, value?, text?_escape_utf8, Option.map_some]
  | .array items, canonical => by
      rw [Canonical] at canonical
      rw [raw, value?, items?_rawItems items canonical, Option.map_some]
  | .object members, canonical => by
      rw [Canonical] at canonical
      rw [raw, value?, members?_rawMembers members canonical.1, Option.map_some,
        ofMembers_ascending canonical.2]

theorem items?_rawItems : (items : List Json) → CanonicalItems items →
    items? (rawItems items) = some items
  | [], _ => rfl
  | item :: rest, canonical => by
      rw [CanonicalItems] at canonical
      rw [rawItems, items?, value?_raw item canonical.1, items?_rawItems rest canonical.2]
      rfl

theorem members?_rawMembers : (members : List (String × Json)) → CanonicalMembers members →
    members? (rawMembers members) = some members
  | [], _ => rfl
  | (key, value) :: rest, canonical => by
      rw [CanonicalMembers] at canonical
      rw [rawMembers, members?, text?_escape_utf8, value?_raw value canonical.1,
        members?_rawMembers rest canonical.2]
      rfl

end

end RawJson

/-! ## Nesting -/

namespace Json

mutual

def depth : Json → ℕ
  | .array items => depthItems items + 1
  | .object members => depthMembers members + 1
  | _ => 0

def depthItems : List Json → ℕ
  | [] => 0
  | item :: rest => max (depth item) (depthItems rest)

def depthMembers : List (String × Json) → ℕ
  | [] => 0
  | (_, value) :: rest => max (depth value) (depthMembers rest)

end

mutual

theorem depth_raw : (value : Json) → value.raw.depth = value.depth
  | .null => rfl
  | .bool _ => rfl
  | .int _ => rfl
  | .double _ => rfl
  | .string _ => rfl
  | .array items => by rw [raw, depth, RawJson.depth, depthItems_rawItems items]
  | .object members => by rw [raw, depth, RawJson.depth, depthMembers_rawMembers members]

theorem depthItems_rawItems : (items : List Json) →
    RawJson.depthItems (rawItems items) = depthItems items
  | [] => rfl
  | item :: rest => by
      rw [rawItems, depthItems, RawJson.depthItems, depth_raw item, depthItems_rawItems rest]

theorem depthMembers_rawMembers : (members : List (String × Json)) →
    RawJson.depthMembers (rawMembers members) = depthMembers members
  | [] => rfl
  | (_, value) :: rest => by
      rw [rawMembers, depthMembers, RawJson.depthMembers, depth_raw value,
        depthMembers_rawMembers rest]

end

end Json

/-- Reading inverts printing. -/
theorem Json.parse_print (value : Json) (canonical : value.Canonical)
    (shallow : value.depth ≤ 127) : Json.parse value.print = some value := by
  rw [Json.parse, RawJson.parse_print value, Option.bind_some, depth_raw,
    if_pos shallow, RawJson.value?_raw value canonical]

end Codec
