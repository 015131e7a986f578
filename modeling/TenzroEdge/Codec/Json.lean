import TenzroEdge.Codec.Number
import Mathlib.Data.String.Basic

/-!
# JSON texts

`Json` is the type of JSON values, with the members of an object in the order in
which they are printed, and `print` is the compact printer: no white space, and
the shortest escape for each octet of a string that must not stand for itself.

Reading has two stages. `parse` reads a text into a `RawJson`, where strings are
still escaped and numbers still digits, so that a reader which skips a value
it does not need accepts whatever is lexically well formed. `RawJson.value?`
decodes the rest; an object becomes a map ordered by key, in which a repeated key
keeps its last value.
-/

namespace Codec

/-- A JSON value. A number that is no 64-bit integer is a double. -/
inductive Json : Type where
  | null
  | bool (value : Bool)
  | int (value : ℤ)
  | double (value : Double)
  | string (text : String)
  | array (items : List Json)
  | object (members : List (String × Json))

/-- A JSON value as it is written: escapes and numbers are not decoded. -/
inductive RawJson : Type where
  | null
  | bool (value : Bool)
  | number (numeral : Numeral)
  | string (escaped : Bytes)
  | array (items : List RawJson)
  | object (members : List (Bytes × RawJson))

namespace Json

/-- Insert a member into an ordered object; a key already present takes the new value. -/
def insertMember (key : String) (value : Json) : List (String × Json) → List (String × Json)
  | [] => [(key, value)]
  | (other, old) :: rest =>
      if key = other then (key, value) :: rest
      else if key < other then (key, value) :: (other, old) :: rest
      else (other, old) :: insertMember key value rest

/-- The object that results from inserting the members one after the other. -/
def ofMembers (members : List (String × Json)) : Json :=
  .object (members.foldl (fun object member => insertMember member.1 member.2 object) [])

def asStr : Json → Option String
  | .string text => some text
  | _ => none

def get? (key : String) : Json → Option Json
  | .object members => members.lookup key
  | _ => none

@[simp]
theorem asStr_string (text : String) : (string text).asStr = some text := rfl

theorem eq_string_of_asStr {value : Json} {text : String} (isString : value.asStr = some text) :
    value = .string text := by
  cases value with
  | string found =>
      cases isString
      rfl
  | _ => cases isString

@[simp]
theorem get?_nil (key : String) : (object []).get? key = none := rfl

/-- A member is found by comparing keys from the front. -/
@[simp]
theorem get?_cons (key other : String) (value : Json) (members : List (String × Json)) :
    (object ((other, value) :: members)).get? key =
      if key = other then some value else (object members).get? key := by
  by_cases same : key = other
  · simp [get?, same]
  · have differs : (key == other) = false := by simpa using same
    simp only [get?, List.lookup_cons, differs, if_neg same]

def getStr? (key : String) (value : Json) : Option String := (value.get? key).bind asStr

/-! ## Printing -/

def escapeOctet (octet : UInt8) : Bytes :=
  if octet = ascii '"' then [ascii '\\', ascii '"']
  else if octet = ascii '\\' then [ascii '\\', ascii '\\']
  else if octet = 0x08 then [ascii '\\', ascii 'b']
  else if octet = 0x09 then [ascii '\\', ascii 't']
  else if octet = 0x0A then [ascii '\\', ascii 'n']
  else if octet = 0x0C then [ascii '\\', ascii 'f']
  else if octet = 0x0D then [ascii '\\', ascii 'r']
  else if octet < 0x20 then
    [ascii '\\', ascii 'u', ascii '0', ascii '0',
      ascii (Nat.digitChar (octet.toNat / 16)), ascii (Nat.digitChar (octet.toNat % 16))]
  else [octet]

def escape (bytes : Bytes) : Bytes := bytes.flatMap escapeOctet

def printString (text : String) : Bytes :=
  ascii '"' :: (escape (utf8 text) ++ [ascii '"'])

mutual

def print : Json → Bytes
  | .null => utf8 "null"
  | .bool true => utf8 "true"
  | .bool false => utf8 "false"
  | .int value => (Numeral.ofInt value).write
  | .double value => (Numeral.ofDouble value).write
  | .string text => printString text
  | .array [] => [ascii '[', ascii ']']
  | .array (item :: rest) => ascii '[' :: (print item ++ printItems rest)
  | .object [] => [ascii '{', ascii '}']
  | .object ((key, value) :: rest) =>
      ascii '{' :: (printString key ++ ascii ':' :: (print value ++ printMembers rest))

/-- The items of an array after its first one, and the closing bracket. -/
def printItems : List Json → Bytes
  | [] => [ascii ']']
  | item :: rest => ascii ',' :: (print item ++ printItems rest)

/-- The members of an object after its first one, and the closing brace. -/
def printMembers : List (String × Json) → Bytes
  | [] => [ascii '}']
  | (key, value) :: rest =>
      ascii ',' :: (printString key ++ ascii ':' :: (print value ++ printMembers rest))

end

end Json

/-! ## Reading -/

namespace RawJson

def isSpace (octet : UInt8) : Bool :=
  octet = 0x20 || octet = 0x09 || octet = 0x0A || octet = 0x0D

def skipSpace (input : Bytes) : Bytes := input.dropWhile isSpace

def hexOctet (octet : UInt8) : Option ℕ := hexValue (Char.ofNat octet.toNat)

/-- The octets that may follow a backslash, other than the `u` of a numeric escape. -/
def isEscape (octet : UInt8) : Bool := ("\"\\/bfnrt".toList.map ascii).contains octet

/-- Read a string up to its closing quote; what precedes the quote is still escaped. -/
def scanString : Bytes → Option (Bytes × Bytes)
  | [] => none
  | first :: rest =>
      if first = ascii '"' then some ([], rest)
      else if first = ascii '\\' then
        match rest with
        | [] => none
        | second :: rest =>
            if second = ascii 'u' then
              match rest with
              | d₁ :: d₂ :: d₃ :: d₄ :: rest =>
                  if [d₁, d₂, d₃, d₄].all fun digit => (hexOctet digit).isSome then
                    (scanString rest).map fun scanned =>
                      (first :: second :: d₁ :: d₂ :: d₃ :: d₄ :: scanned.1, scanned.2)
                  else none
              | _ => none
            else if isEscape second then
              (scanString rest).map fun scanned => (first :: second :: scanned.1, scanned.2)
            else none
      else if first < 0x20 then none
      else (scanString rest).map fun scanned => (first :: scanned.1, scanned.2)

def afterWord (word input : Bytes) : Option Bytes :=
  if word.isPrefixOf input then some (input.drop word.length) else none

mutual

/-- Read one value. Every nested call consumes input, so the bound is no limit for a text
shorter than it. -/
def parseValue : ℕ → Bytes → Option (RawJson × Bytes)
  | 0, _ => none
  | fuel + 1, input =>
      match skipSpace input with
      | [] => none
      | first :: rest =>
          if first = ascii '"' then
            (scanString rest).map fun scanned => (.string scanned.1, scanned.2)
          else if first = ascii '[' then
            match skipSpace rest with
            | [] => none
            | next :: after =>
                if next = ascii ']' then some (.array [], after)
                else (parseItems fuel (next :: after)).map fun read => (.array read.1, read.2)
          else if first = ascii '{' then
            match skipSpace rest with
            | [] => none
            | next :: after =>
                if next = ascii '}' then some (.object [], after)
                else (parseMembers fuel (next :: after)).map fun read => (.object read.1, read.2)
          else if first = ascii 'n' then
            (afterWord (utf8 "ull") rest).map fun after => (.null, after)
          else if first = ascii 't' then
            (afterWord (utf8 "rue") rest).map fun after => (.bool true, after)
          else if first = ascii 'f' then
            (afterWord (utf8 "alse") rest).map fun after => (.bool false, after)
          else
            (Numeral.scan (first :: rest)).map fun scanned => (.number scanned.1, scanned.2)

def parseItems : ℕ → Bytes → Option (List RawJson × Bytes)
  | 0, _ => none
  | fuel + 1, input => do
      let (item, rest) ← parseValue fuel input
      match skipSpace rest with
      | [] => none
      | next :: after =>
          if next = ascii ']' then some ([item], after)
          else if next = ascii ',' then do
            let (items, final) ← parseItems fuel after
            some (item :: items, final)
          else none

def parseMembers : ℕ → Bytes → Option (List (Bytes × RawJson) × Bytes)
  | 0, _ => none
  | fuel + 1, input =>
      match skipSpace input with
      | [] => none
      | quote :: text =>
          if quote = ascii '"' then do
            let (key, rest) ← scanString text
            match skipSpace rest with
            | [] => none
            | colon :: rest =>
                if colon = ascii ':' then do
                  let (value, rest) ← parseValue fuel rest
                  match skipSpace rest with
                  | [] => none
                  | next :: after =>
                      if next = ascii '}' then some ([(key, value)], after)
                      else if next = ascii ',' then do
                        let (members, final) ← parseMembers fuel after
                        some ((key, value) :: members, final)
                      else none
                else none
          else none

end

/-- Read a whole text: one value, and nothing after it but white space. -/
def parse (input : Bytes) : Option RawJson := do
  let (value, rest) ← parseValue (input.length + 1) input
  if skipSpace rest = [] then some value else none

/-! ## Decoding -/

def codeUnit (d₁ d₂ d₃ d₄ : UInt8) : Option ℕ := do
  let v₁ ← hexOctet d₁
  let v₂ ← hexOctet d₂
  let v₃ ← hexOctet d₃
  let v₄ ← hexOctet d₄
  some (((v₁ * 16 + v₂) * 16 + v₃) * 16 + v₄)

def escapedOctet (letter : UInt8) : Option UInt8 :=
  if letter = ascii '"' then some (ascii '"')
  else if letter = ascii '\\' then some (ascii '\\')
  else if letter = ascii '/' then some (ascii '/')
  else if letter = ascii 'b' then some 0x08
  else if letter = ascii 'f' then some 0x0C
  else if letter = ascii 'n' then some 0x0A
  else if letter = ascii 'r' then some 0x0D
  else if letter = ascii 't' then some 0x09
  else none

/-- Decode the escapes of a string; the two halves of a surrogate pair must follow each other. -/
def unescape : Bytes → Option Bytes
  | [] => some []
  | first :: rest =>
      if first = ascii '\\' then
        match rest with
        | [] => none
        | letter :: rest =>
            if letter = ascii 'u' then
              match rest with
              | d₁ :: d₂ :: d₃ :: d₄ :: rest => do
                  let unit ← codeUnit d₁ d₂ d₃ d₄
                  if 0xDC00 ≤ unit ∧ unit ≤ 0xDFFF then none
                  else if 0xD800 ≤ unit ∧ unit ≤ 0xDBFF then
                    match rest with
                    | b :: u :: e₁ :: e₂ :: e₃ :: e₄ :: rest => do
                        let low ← codeUnit e₁ e₂ e₃ e₄
                        if b = ascii '\\' ∧ u = ascii 'u' ∧ 0xDC00 ≤ low ∧ low ≤ 0xDFFF then do
                          let more ← unescape rest
                          some (String.utf8EncodeChar (Char.ofNat
                            ((unit - 0xD800) * 0x400 + (low - 0xDC00) + 0x10000)) ++ more)
                        else none
                    | _ => none
                  else do
                    let more ← unescape rest
                    some (String.utf8EncodeChar (Char.ofNat unit) ++ more)
              | _ => none
            else do
              let octet ← escapedOctet letter
              let more ← unescape rest
              some (octet :: more)
      else do
        let more ← unescape rest
        some (first :: more)

def text? (escaped : Bytes) : Option String := (unescape escaped).bind fromUtf8?

/-- A number beyond the range of a double has no value. -/
def numberValue (numeral : Numeral) : Option Json :=
  match numeral.integer? with
  | some value => some (.int value)
  | none => numeral.double?.map .double

mutual

/-- The value that is written. A string with an invalid escape or invalid UTF-8 has none, and
neither has a number that is out of range. -/
def value? : RawJson → Option Json
  | .null => some .null
  | .bool value => some (.bool value)
  | .number numeral => numberValue numeral
  | .string escaped => (text? escaped).map .string
  | .array items => (items? items).map .array
  | .object members => (members? members).map .ofMembers

def items? : List RawJson → Option (List Json)
  | [] => some []
  | item :: rest => do
      let value ← value? item
      let values ← items? rest
      some (value :: values)

def members? : List (Bytes × RawJson) → Option (List (String × Json))
  | [] => some []
  | (key, value) :: rest => do
      let key ← text? key
      let value ← value? value
      let members ← members? rest
      some ((key, value) :: members)

end

mutual

/-- How deep arrays and objects are nested. -/
def depth : RawJson → ℕ
  | .array items => depthItems items + 1
  | .object members => depthMembers members + 1
  | _ => 0

def depthItems : List RawJson → ℕ
  | [] => 0
  | item :: rest => max (depth item) (depthItems rest)

def depthMembers : List (Bytes × RawJson) → ℕ
  | [] => 0
  | (_, value) :: rest => max (depth value) (depthMembers rest)

end

end RawJson

/-- Read a whole text as a value; beyond 127 levels the reader gives up. -/
def Json.parse (input : Bytes) : Option Json :=
  (RawJson.parse input).bind fun raw => if raw.depth ≤ 127 then raw.value? else none

/-- A number that is out of range makes a text unreadable, also where nothing reads the number. -/
example : Json.parse (utf8 "\x7b\"result\":1,\"x\":1e999\x7d") = none := by decide +kernel

end Codec
