/-
  TableSync/Validation.lean
  =========================
  **Checked reading** — values that must fit a description.

  A setting may come as a number, as text or as a truth value; each reader here
  says which values it takes for a field of its kind and names the problem with
  all others.  `Checked` collects every violation of a description instead of
  stopping at the first, and `under` records where in the input it is.
-/
import TableSync.Failure.Basic
import TableSync.Text.Case
import TableSync.Text.Integer
import TableSync.Text.Split

namespace TableSync

/-! ## 1. Collecting violations -/

/-- A value that fits its description, or everything that is wrong with it. -/
def Checked (α : Type) : Type := Except (List Violation) α

namespace Checked

variable {α β : Type}

/-- A value that fits. -/
def fits (a : α) : Checked α := Except.ok a

/-- A problem with the value itself. -/
def problem (p : String) : Checked α := Except.error [⟨[], p⟩]

/-- Apply a function to what was read. -/
def map (f : α → β) : Checked α → Checked β
  | .ok a => .ok (f a)
  | .error violations => .error violations

/-- Read two parts; the violations of both are kept. -/
def apply (f : Checked (α → β)) (x : Checked α) : Checked β :=
  match f, x with
  | .ok f, .ok a => .ok (f a)
  | .ok _, .error later => .error later
  | .error earlier, .ok _ => .error earlier
  | .error earlier, .error later => .error (earlier ++ later)

instance : Functor Checked where
  map := map

instance : Seq Checked where
  seq f x := apply f (x ())

/-- A further test of what was read. -/
def test (accept : α → Bool) (p : String) : Checked α → Checked α
  | .ok a => if accept a then .ok a else problem p
  | .error violations => .error violations

/-- Say where the violations are. -/
def under (name : String) : Checked α → Checked α
  | .ok a => .ok a
  | .error violations => .error (violations.map fun v => { v with location := name :: v.location })

/-- The failure of the description named `model` if anything is wrong. -/
def toExcept (model : String) : Checked α → Except Failure α
  | .ok a => .ok a
  | .error violations => .error (.invalid model violations)

end Checked

/-- A reader of values of one kind. -/
abbrev Reader (α : Type) := Value → Checked α

namespace Reader

open Checked

variable {α : Type}

/-! ## 2. Single values -/

/-- Any value. -/
def anything : Reader Value := fits

/-- Text. -/
def text : Reader String
  | .text s => fits s
  | _ => problem "string_type"

/-- Text of at least `least` characters. -/
def textFrom (least : Nat) : Reader String :=
  fun v => (text v).test (fun s => least ≤ s.length) "string_too_short"

/-- Text of `least` to `most` characters. -/
def textWithin (least most : Nat) : Reader String :=
  fun v => (textFrom least v).test (fun s => s.length ≤ most) "string_too_long"

/-- Blanks around a number in a setting. -/
def isSpace (c : Char) : Bool := Text.isBlank c && !(0x1C ≤ c.toNat && c.toNat ≤ 0x1F)

/-- A text without blanks at its ends. -/
def trimmed (s : String) : List Char :=
  ((s.toList.dropWhile isSpace).reverse.dropWhile isSpace).reverse

/-- Drop a fraction that is zero. -/
def withoutZeroFraction (cs : List Char) : List Char :=
  let (whole, rest) := cs.span (· != '.')
  match rest with
  | '.' :: digits => if digits.all (· == '0') then whole else cs
  | _ => cs

/-- The most characters that a whole number in text may have. -/
def digitLimit : Nat := 4300

/-- A whole number that 64 bits hold on either side of zero. -/
def isWithin64 (n : Int) : Bool := n.natAbs < twoTo 63

/-- A whole number: also a truth value, a double without fraction, or text of digits. Doubles are taken as far
as 64 bits go. -/
def whole : Reader Int
  | .int n => fits n
  | .bool b => fits (if b then 1 else 0)
  | .float x =>
    if (Binary64.decode x).isWhole then
      if isWithin64 (Number.double x).truncate then fits (Number.double x).truncate else problem "int_parsing_size"
    else match Binary64.decode x with
      | .finite .. => problem "int_from_float"
      | _ => problem "finite_number"
  | .text s =>
    if digitLimit < (trimmed s).length then problem "int_parsing_size"
    else match Text.Integer.readSigned Decimal.digit? (withoutZeroFraction (trimmed s)) with
      | some n => fits n
      | none => problem "int_parsing"
  | _ => problem "int_type"

/-- A whole number above `bound`. -/
def wholeAbove (bound : Int) : Reader Int :=
  fun v => (whole v).test (fun n => bound < n) "greater_than"

/-- A whole number of at least `least`. -/
def wholeFrom (least : Int) : Reader Int :=
  fun v => (whole v).test (fun n => least ≤ n) "greater_than_equal"

/-- The words for false and for true in any case of letters. -/
def truthWords : List (String × Bool) :=
  [("0", false), ("off", false), ("f", false), ("false", false), ("n", false), ("no", false),
   ("1", true), ("on", true), ("t", true), ("true", true), ("y", true), ("yes", true)]

/-- A truth value from a number; a number beyond 64 bits is of the wrong kind. -/
def truthOfWhole (n : Int) : Checked Bool :=
  if n = 0 then fits false else if n = 1 then fits true
  else if isWithin64 n || n == -(twoTo 63 : Int) then problem "bool_parsing" else problem "bool_type"

/-- A truth value: also 0 and 1, or a word for one. -/
def truth : Reader Bool
  | .bool b => fits b
  | .int n => truthOfWhole n
  | .float x => if (Binary64.decode x).isWhole then truthOfWhole (Number.double x).truncate else problem "bool_type"
  | .text s =>
    match Fields.get? truthWords (Text.lower s) with
    | some b => fits b
    | none => problem "bool_parsing"
  | _ => problem "bool_type"

/-- The words for the special doubles. -/
def doubleWords : List (String × Float) :=
  [("inf", 1.0 / 0.0), ("infinity", 1.0 / 0.0), ("nan", 0.0 / 0.0)]

/-- An unsigned decimal with an optional exponent. -/
def unsignedDecimal? (cs : List Char) : Option Float := do
  let (whole, rest) := Decimal.spanDigits cs
  let (fraction, rest) := match rest with
    | '.' :: more => Decimal.spanDigits more
    | _ => ([], rest)
  if whole.isEmpty && fraction.isEmpty then none
  else
    let exponent : Int ← match rest with
      | [] => some 0
      | mark :: more =>
        if mark = 'e' ∨ mark = 'E' then
          let (negative, digits) := match more with
            | '-' :: digits => (true, digits)
            | '+' :: digits => (false, digits)
            | digits => (false, digits)
          if digits.isEmpty || !digits.all Char.isDigit then none
          else
            let n : Int := Decimal.ofDigits 0 digits
            some (if negative then -n else n)
        else none
    some (Decimal.toFloat (Decimal.ofDigits (Decimal.ofDigits 0 whole) fraction) (exponent - fraction.length))

/-- A decimal in text, or a word for a special double, with an optional sign. -/
def decimal? (cs : List Char) : Option Float :=
  let (negative, rest) := match cs with
    | '-' :: rest => (true, rest)
    | '+' :: rest => (false, rest)
    | _ => (false, cs)
  let magnitude := match Fields.get? doubleWords (Text.lower (String.ofList rest)) with
    | some x => some x
    | none => unsignedDecimal? rest
  magnitude.map fun x => if negative then -x else x

/-- A number without the underscores that stand single between other characters. -/
def withoutUnderscores (cs : List Char) : Option (List Char) :=
  let parts := Text.splitChars '_' cs
  if parts.length < 2 || parts.any List.isEmpty then none else some parts.flatten

/-- A double: also a whole number, a truth value, or a decimal in text. -/
def double : Reader Float
  | .float x => fits x
  | .int n => fits (Float.ofInt n)
  | .bool b => fits (if b then 1.0 else 0.0)
  | .text s =>
    match decimal? (trimmed s) <|> (withoutUnderscores s.toList).bind decimal? with
    | some x => fits x
    | none => problem "float_parsing"
  | _ => problem "float_type"

/-- One of a set of named choices. -/
def choice (choices : List (String × α)) : Reader α
  | .text s =>
    match Fields.get? choices s with
    | some a => fits a
    | none => problem "enum"
  | _ => problem "enum"

/-! ## 3. Values made of values -/

/-- Nothing, or a value of a kind. -/
def orNull (read : Reader α) : Reader (Option α)
  | .null => fits none
  | v => (read v).map some

/-- Read items from the position `i` on. -/
def items (read : Reader α) : Nat → List Value → Checked (List α)
  | _, [] => fits []
  | i, v :: rest =>
    (((read v).under (toString i)).map List.cons).apply (items read (i + 1) rest)

/-- A list. -/
def list (read : Reader α) : Reader (List α)
  | .list values => items read 0 values
  | _ => problem "list_type"

/-- Read the fields of an object. -/
def fields (read : Reader α) : Fields Value → Checked (Fields α)
  | [] => fits []
  | (name, v) :: rest =>
    (((read v).under name).map fun a others => (name, a) :: others).apply (fields read rest)

/-- An object whose fields are all of one kind. -/
def object (read : Reader α) : Reader (Fields α)
  | .object fs => fields read fs
  | _ => problem "dict_type"

/-- An object that fits a description of its own. -/
def described (read : Record → Checked α) : Reader α
  | .object fs => read fs
  | _ => problem "model_type"

/-- A field that must be there. -/
def required (record : Record) (name : String) (read : Reader α) : Checked α :=
  match Fields.get? record name with
  | some v => (read v).under name
  | none => Except.error [⟨[name], "missing"⟩]

/-- A field with a default. -/
def optional (record : Record) (name : String) (default : α) (read : Reader α) : Checked α :=
  match Fields.get? record name with
  | some v => (read v).under name
  | none => fits default

end Reader

end TableSync
