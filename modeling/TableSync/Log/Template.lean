/-
  TableSync/Log/Template.lean
  ===========================
  **Texts with places** — what a line or a message leaves open, and how it is
  filled.

  A place begins with a percent sign.  It may name the value that goes into it,
  say how wide it is and how many digits it has, and ends with the letter of a
  conversion: as text, as it is written in a program, as a whole number in
  some base, or with a fixed number of decimal places.  Places without a name
  take their values in order.
-/
import TableSync.Decimal.Rounding
import TableSync.Failure.Basic
import TableSync.Value.Text

namespace TableSync.Log

/-! ## 1. Places -/

/-- How a place is filled. -/
structure Place where
  flags : List Char := []
  width : Nat := 0
  precision : Option Nat := none
  conversion : Char
deriving Repr

/-- The characters that may follow the mark of a place. -/
def flagChars : List Char := ['-', '0', ' ', '+', '#']

/-- The letters of conversions. -/
def conversionChars : List Char :=
  ['d', 'i', 'o', 'u', 'x', 'e', 'f', 'g', 'c', 'r', 's', 'a', 'X', 'E', 'F', 'G']

/-- The number of digits that a place asks for, after a point. -/
def precision? : List Char → Option Nat × List Char
  | '.' :: rest =>
    let (digits, rest) := Decimal.spanDigits rest
    (some (Decimal.ofDigits 0 digits), rest)
  | rest => (none, rest)

/-- The flags, width, digits and conversion after the mark of a place, and what follows. -/
def place? (cs : List Char) : Option (Place × List Char) :=
  let (flags, rest) := cs.span flagChars.contains
  let (digits, rest) := Decimal.spanDigits rest
  let (precision, rest) := precision? rest
  match rest with
  | [] => none
  | conversion :: rest => some (⟨flags, Decimal.ofDigits 0 digits, precision, conversion⟩, rest)

/-! ## 2. Filling a place -/

namespace Place

/-- Fill a place up to its width, to the left or to the right. -/
def pad (place : Place) (s : String) : String :=
  let blanks := String.ofList (List.replicate (place.width - s.length) ' ')
  if place.flags.contains '-' then s ++ blanks else blanks ++ s

/-- What stands before the digits of a number. -/
def sign (place : Place) (negative : Bool) : String :=
  if negative then "-"
  else if place.flags.contains '+' then "+"
  else if place.flags.contains ' ' then " "
  else ""

/-- A number in a place; zeros that fill the place stand after the sign. -/
def number (place : Place) (negative : Bool) (digits : String) : String :=
  let sign := place.sign negative
  if place.flags.contains '0' && !place.flags.contains '-' then
    sign ++ String.ofList (List.replicate (place.width - sign.length - digits.length) '0') ++ digits
  else place.pad (sign ++ digits)

/-- At least so many digits, with zeros in front. -/
def leastDigits (count : Nat) (digits : List Char) : List Char :=
  List.replicate (count - digits.length) '0' ++ digits

/-- A whole number in a base. -/
def whole (place : Place) (base : Nat) (n : Int) : String :=
  place.number (decide (n < 0)) (String.ofList (leastDigits (place.precision.getD 0) (Nat.toDigits base n.natAbs)))

/-- The magnitude `m · 2 ^ q` with a number of decimal places, a half to the even neighbour. -/
def fixedDigits (places m : Nat) (q : Int) : List Char :=
  let scaled := m * tenTo places
  let units := if 0 ≤ q then scaled * twoTo q.toNat else Decimal.divideHalfEven scaled (twoTo (-q).toNat)
  let digits := leastDigits (places + 1) (Nat.toDigits 10 units)
  let (before, after) := digits.splitAt (digits.length - places)
  if places = 0 then before else before ++ '.' :: after

/-- A double with a fixed number of decimal places, six if the place does not say. -/
def fixed (place : Place) (x : Float) : String :=
  match Binary64.decode x with
  | .nan => place.pad "nan"
  | .infinite negative => place.pad (place.sign negative ++ "inf")
  | .finite negative m q => place.number negative (String.ofList (fixedDigits (place.precision.getD 6) m q))

/-- A text cut to the digits that the place asks for. -/
def text (place : Place) (s : String) : String :=
  place.pad (match place.precision with
    | some count => String.ofList (s.toList.take count)
    | none => s)

/-- A value that does not fit the conversion. -/
def misfit : Failure := .outside .type "a number is required" false

/-- The whole number that a value is; a double is cut. -/
def wholeOf : Value → Except Failure Int
  | .int n => .ok n
  | .bool b => .ok (if b then 1 else 0)
  | .float x => match (Binary64.decode x).truncate with
    | some n => .ok n
    | none => .error (.outside (if x.isNaN then .value else .overflow) "the number has no whole part" false)
  | _ => .error misfit

/-- The whole number that a value is, doubles being none. -/
def strictWholeOf : Value → Except Failure Int
  | .float _ => .error misfit
  | v => wholeOf v

/-- The double nearest to a number. -/
def doubleOf : Value → Except Failure Float
  | .float x => .ok x
  | v => Float.ofInt <$> wholeOf v

/-- The text of a value in a place. -/
def fill (place : Place) (value : Value) : Except Failure String :=
  match place.conversion with
  | 's' => .ok (place.text value.display)
  | 'r' => .ok (place.text value.literal)
  | 'd' | 'i' | 'u' => place.whole 10 <$> wholeOf value
  | 'o' => place.whole 8 <$> strictWholeOf value
  | 'x' => place.whole 16 <$> strictWholeOf value
  | 'X' => (fun n => (place.whole 16 n).map Char.toUpper) <$> strictWholeOf value
  | 'f' | 'F' => place.fixed <$> doubleOf value
  | _ => .error (.outside .value "unsupported format character" false)

end Place

/-! ## 3. Filling a text -/

/-- What a text with places is filled with: values in order, and values by name. -/
structure Arguments where
  inOrder : List Value := []
  named : Option (Fields Value) := none

namespace Arguments

/-- The arguments of a message; a single object fills places by its names. -/
def ofValues : List Value → Arguments
  | [.object (first :: rest)] => ⟨[.object (first :: rest)], some (first :: rest)⟩
  | values => ⟨values, none⟩

/-- The value for the next place without a name, and the arguments after it. -/
def next (arguments : Arguments) : Except Failure (Value × Arguments) :=
  match arguments.inOrder with
  | value :: rest => .ok (value, { arguments with inOrder := rest })
  | [] => .error (.outside .type "not enough arguments" false)

/-- The value of a name. -/
def byName (arguments : Arguments) (name : String) : Except Failure Value :=
  match arguments.named.map fun fields => Fields.get? fields name with
  | some (some value) => .ok value
  | some none => .error (.outside .key ("there is no value named " ++ name) false)
  | none => .error (.outside .type "places with names need an object" false)

/-- All values have a place: those by name need none. -/
def exhausted (arguments : Arguments) : Except Failure Unit :=
  if arguments.named.isNone && !arguments.inOrder.isEmpty then
    .error (.outside .type "not all arguments have a place" false)
  else .ok ()

end Arguments

/-- A name in round brackets at the start, and what follows it. -/
def placeName? : List Char → Option (String × List Char)
  | '(' :: rest =>
    let (name, after) := rest.span (· != ')')
    some (String.ofList name, after.drop 1)
  | _ => none

/-- Fill the places of a text one after the other. -/
def fillFrom : Nat → List Char → Arguments → Except Failure (List String)
  | 0, _, _ => .ok []
  | _ + 1, [], arguments => do
    arguments.exhausted
    return []
  | fuel + 1, '%' :: '%' :: rest, arguments => do return "%" :: (← fillFrom fuel rest arguments)
  | fuel + 1, '%' :: rest, arguments => do
    let incomplete : Failure := .outside .value "incomplete format" false
    let (value, others, rest) ← match placeName? rest with
      | some (name, rest) => do pure (← arguments.byName name, arguments, rest)
      | none => do
        if (place? rest).isNone then throw incomplete
        let (value, others) ← arguments.next
        pure (value, others, rest)
    match place? rest with
    | none => throw incomplete
    | some (place, rest) => return (← place.fill value) :: (← fillFrom fuel rest others)
  | fuel + 1, c :: rest, arguments => do return String.singleton c :: (← fillFrom fuel rest arguments)

/-- A text with its places filled. -/
def fillPlaces (text : String) (arguments : Arguments) : Except Failure String :=
  String.join <$> fillFrom (text.length + 1) text.toList arguments

end TableSync.Log
