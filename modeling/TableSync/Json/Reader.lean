/-
  TableSync/Json/Reader.lean
  ==========================
  **Reading JSON** — schema files and the bodies of responses.

  The grammar is the standard one with three more number words (the names of
  the special doubles).  A number without fraction and exponent is a whole
  number of at most `Text.Integer.digitLimit` digits.  An escape may name half
  of a pair of units, which is no character.  Of two fields under one name the
  later value counts, at the place of the first.  `Json.read?` accepts one
  value with blanks around it and nothing else; the recursion is bounded by the
  length of the text, since every step takes a character.
-/
import TableSync.Value
import TableSync.Decimal.Reading
import TableSync.Text.Integer

namespace TableSync.Json

/-! ## 1. Tokens -/

/-- Blanks between tokens. -/
def isSpace (c : Char) : Bool := c == ' ' || c == '\t' || c == '\n' || c == '\r'

/-- Drop blanks. -/
def skip (cs : List Char) : List Char := cs.dropWhile isSpace

/-- The value of a hex digit. -/
def hexDigit? (c : Char) : Option Nat :=
  if '0' ≤ c ∧ c ≤ '9' then some (c.toNat - '0'.toNat)
  else if 'a' ≤ c ∧ c ≤ 'f' then some (c.toNat - 'a'.toNat + 10)
  else if 'A' ≤ c ∧ c ≤ 'F' then some (c.toNat - 'A'.toNat + 10)
  else none

/-- A UTF-16 unit of four hex digits. -/
def unit? : List Char → Option (Nat × List Char)
  | a :: b :: c :: d :: rest => do
    let a ← hexDigit? a
    let b ← hexDigit? b
    let c ← hexDigit? c
    let d ← hexDigit? d
    some (((a * 16 + b) * 16 + c) * 16 + d, rest)
  | _ => none

/-- What follows a backslash, other than a UTF-16 unit. -/
def simpleEscape? : Char → Option Char
  | '"' => some '"'
  | '\\' => some '\\'
  | '/' => some '/'
  | 'b' => some (Char.ofNat 8)
  | 'f' => some (Char.ofNat 12)
  | 'n' => some '\n'
  | 'r' => some '\r'
  | 't' => some '\t'
  | _ => none

/-- The character of a UTF-16 unit on its own. A half of a pair is read as well, and as no character has its code, it
stands as the replacement character. -/
def unitChar (unit : Nat) : Char := if 0xD800 ≤ unit ∧ unit < 0xE000 then '\uFFFD' else Char.ofNat unit

/-- A character from one escaped unit, or from two that form a pair. -/
def escapedChar? (cs : List Char) : Option (Char × List Char) := do
  let (unit, rest) ← unit? cs
  if 0xD800 ≤ unit ∧ unit < 0xDC00 then
    match rest with
    | '\\' :: 'u' :: more =>
      let (low, after) ← unit? more
      if 0xDC00 ≤ low ∧ low < 0xE000 then
        some (Char.ofNat (0x10000 + (unit - 0xD800) * 0x400 + (low - 0xDC00)), after)
      else some (unitChar unit, rest)
    | _ => some (unitChar unit, rest)
  else some (unitChar unit, rest)

/-- The rest of a string after its opening quote, collected in reverse. -/
def string? : Nat → List Char → List Char → Option (String × List Char)
  | 0, _, _ => none
  | fuel + 1, acc, cs =>
    match cs with
    | [] => none
    | '"' :: rest => some (String.ofList acc.reverse, rest)
    | '\\' :: 'u' :: rest =>
      match escapedChar? rest with
      | some (c, rest) => string? fuel (c :: acc) rest
      | none => none
    | '\\' :: c :: rest =>
      match simpleEscape? c with
      | some c => string? fuel (c :: acc) rest
      | none => none
    | c :: rest => if c.toNat < 0x20 ∨ c = '\\' then none else string? fuel (c :: acc) rest

/-- The digits of an exponent after its mark, if they are there. -/
def exponent? (cs : List Char) : Option (Int × List Char) :=
  match cs with
  | mark :: rest =>
    if mark = 'e' ∨ mark = 'E' then
      let (negative, digits) := match rest with
        | '-' :: more => (true, more)
        | '+' :: more => (false, more)
        | _ => (false, rest)
      let (found, rest) := Decimal.spanDigits digits
      if found.isEmpty then none
      else
        let n : Int := Decimal.ofDigits 0 found
        some (if negative then -n else n, rest)
    else none
  | [] => none

/-- An unsigned number; a leading zero stands alone. -/
def number? (negative : Bool) (cs : List Char) : Option (Value × List Char) :=
  let (whole, rest) := match cs with
    | '0' :: rest => (['0'], rest)
    | _ => Decimal.spanDigits cs
  if whole.isEmpty then none
  else
    let (fraction, rest) := match rest with
      | '.' :: more =>
        let (digits, after) := Decimal.spanDigits more
        if digits.isEmpty then ([], rest) else (digits, after)
      | _ => ([], rest)
    let (exponent, rest) := match exponent? rest with
      | some (e, after) => (some e, after)
      | none => (none, rest)
    if fraction.isEmpty && exponent.isNone then
      let n : Int := Decimal.ofDigits 0 whole
      if Text.Integer.digitLimit < whole.length then none else some (.int (if negative then -n else n), rest)
    else
      let mantissa := Decimal.ofDigits (Decimal.ofDigits 0 whole) fraction
      let x := Decimal.toFloat mantissa (exponent.getD 0 - fraction.length)
      some (.float (if negative then -x else x), rest)

/-- A word of the grammar at the start of a text. -/
def word? (word : String) (cs : List Char) : Option (List Char) :=
  if word.toList.isPrefixOf cs then some (cs.drop word.length) else none

/-- The words of the grammar and what they stand for. -/
def words : List (String × Value) :=
  [("null", .null), ("true", .bool true), ("false", .bool false),
   ("NaN", .float (Float.ofBits 0x7FF8000000000000)),
   ("Infinity", .float (Float.ofBits 0x7FF0000000000000)),
   ("-Infinity", .float (Float.ofBits 0xFFF0000000000000))]

/-- A value that is neither string, list nor object. -/
def scalar? (cs : List Char) : Option (Value × List Char) :=
  match words.findSome? fun (word, value) => (word? word cs).map fun rest => (value, rest) with
  | some found => some found
  | none =>
    match cs with
    | '-' :: rest => number? true rest
    | _ => number? false cs

/-! ## 2. Values -/

mutual

/-- A value at the start of a text, without blanks in front. -/
def value? : Nat → List Char → Option (Value × List Char)
  | 0, _ => none
  | fuel + 1, cs =>
    match cs with
    | '"' :: rest => (string? (rest.length + 1) [] rest).map fun (s, rest) => (.text s, rest)
    | '[' :: rest =>
      match skip rest with
      | ']' :: rest => some (.list [], rest)
      | rest => (items? fuel [] rest).map fun (items, rest) => (.list items, rest)
    | '{' :: rest =>
      match skip rest with
      | '}' :: rest => some (.object [], rest)
      | rest => (fields? fuel [] rest).map fun (fields, rest) => (.object (Fields.ofPairs fields), rest)
    | _ => scalar? cs

/-- The items of a list up to its end, collected in reverse. -/
def items? : Nat → List Value → List Char → Option (List Value × List Char)
  | 0, _, _ => none
  | fuel + 1, acc, cs =>
    match value? fuel cs with
    | none => none
    | some (item, rest) =>
      match skip rest with
      | ',' :: rest => items? fuel (item :: acc) (skip rest)
      | ']' :: rest => some ((item :: acc).reverse, rest)
      | _ => none

/-- The fields of an object up to its end, collected in reverse. -/
def fields? : Nat → List (String × Value) → List Char → Option (List (String × Value) × List Char)
  | 0, _, _ => none
  | fuel + 1, acc, cs =>
    match cs with
    | '"' :: rest =>
      match string? (rest.length + 1) [] rest with
      | none => none
      | some (name, rest) =>
        match skip rest with
        | ':' :: rest =>
          match value? fuel (skip rest) with
          | none => none
          | some (value, rest) =>
            match skip rest with
            | ',' :: rest => fields? fuel ((name, value) :: acc) (skip rest)
            | '}' :: rest => some (((name, value) :: acc).reverse, rest)
            | _ => none
        | _ => none
    | _ => none

end

/-- The value that a text holds, with blanks around it. -/
def read? (s : String) : Option Value :=
  let cs := skip s.toList
  match value? (2 * cs.length + 2) cs with
  | some (value, rest) => if (skip rest).isEmpty then some value else none
  | none => none

end TableSync.Json
