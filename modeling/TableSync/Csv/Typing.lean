/-
  TableSync/Csv/Typing.lean
  =========================
  **The type of a column of a file** — found from its fields.

  A column is read as whole numbers, else as doubles, else as truth values,
  else as texts; the first reading that takes every field is the one.  Certain
  words mean that the value is missing.  Whole numbers beyond 64 bits make a
  mixed column of exact numbers, unless something in it is no whole number.
-/
import TableSync.Csv.Scan
import TableSync.Frame.Basic
import TableSync.Text.Integer

namespace TableSync.Csv

/-! ## 1. Words -/

/-- The words for a missing value. -/
def missingWords : List String :=
  ["", "#N/A", "#N/A N/A", "#NA", "-1.#IND", "-1.#QNAN", "-NaN", "-nan", "1.#IND", "1.#QNAN", "<NA>", "N/A",
   "NA", "NULL", "NaN", "None", "n/a", "nan", "null"]

/-- The words for truth values. -/
def truthWords : List (String × Bool) :=
  [("True", true), ("TRUE", true), ("true", true), ("False", false), ("FALSE", false), ("false", false)]

/-- A blank around a number in a field. -/
def isSpace (c : Char) : Bool := c == ' ' || (9 ≤ c.toNat && c.toNat ≤ 13)

/-- Drop blanks in front. -/
def skipSpace (cs : List Char) : List Char := cs.dropWhile isSpace

/-! ## 2. Whole numbers -/

/-- The sign in front of a number, if it is a minus, and what follows. -/
def splitSign : List Char → Bool × List Char
  | '-' :: rest => (true, rest)
  | '+' :: rest => (false, rest)
  | cs => (false, cs)

/-- Digits followed by blanks. -/
def digits? (cs : List Char) : Option Nat :=
  let (digits, rest) := Decimal.spanDigits cs
  if digits.isEmpty || !(skipSpace rest).isEmpty then none else some (Decimal.ofDigits 0 digits)

/-- A whole number with blanks around it. -/
def whole? (word : String) : Option Int :=
  let (negative, cs) := splitSign (skipSpace word.toList)
  (digits? cs).map fun n => if negative then -(n : Int) else n

/-- A whole number with a sign in 64 bits. -/
def isWhole64 (n : Int) : Bool := -9223372036854775808 ≤ n && n ≤ 9223372036854775807

/-- A whole number without a sign in 64 bits. -/
def isCount64 (n : Int) : Bool := n ≤ 18446744073709551615

/-! ## 3. Doubles -/

/-- A power of ten as a double. -/
def powerOfTen (n : Nat) : Float := Float.ofScientific 1 false n

/-- Digits gathered so far: their value, how many count, and the power of ten still to be applied. -/
structure Gathered where
  value : Float := 0.0
  digits : Nat := 0
  exponent : Int := 0

/-- How many digits of a number count. -/
def digitLimit : Nat := 17

/-- One more digit before the point. -/
def Gathered.addWhole (g : Gathered) (c : Char) : Gathered :=
  if g.digits < digitLimit then
    { g with value := g.value * 10.0 + Float.ofNat (c.toNat - '0'.toNat), digits := g.digits + 1 }
  else { g with exponent := g.exponent + 1 }

/-- One more digit after the point. -/
def Gathered.addFraction (g : Gathered) (c : Char) : Gathered :=
  if g.digits < digitLimit then
    { value := g.value * 10.0 + Float.ofNat (c.toNat - '0'.toNat), digits := g.digits + 1, exponent := g.exponent - 1 }
  else g

/-- Scale by a power of ten in at most two steps. -/
def scale (value : Float) (exponent : Int) : Float :=
  if exponent > 308 then (if value == 0.0 then 0.0 else value * (1.0 / 0.0))
  else if exponent > 0 then value * powerOfTen exponent.toNat
  else if exponent < -616 then value * 0.0
  else if exponent < -308 then value / powerOfTen (-308 - exponent).toNat / powerOfTen 308
  else value / powerOfTen (-exponent).toNat

/-- The exponent of a number, if it has one, and what follows. -/
def exponentOf (cs : List Char) : Option (Int × List Char) :=
  match cs with
  | mark :: rest =>
    if mark = 'e' ∨ mark = 'E' then
      let (negative, rest) := splitSign rest
      let (digits, rest) := Decimal.spanDigits rest
      if digits.isEmpty || digits.length > digitLimit then none
      else
        let n : Int := Decimal.ofDigits 0 digits
        some (if negative then -n else n, rest)
    else some (0, cs)
  | [] => some (0, [])

/-- A decimal number with blanks around it; one too large for a double is none. -/
def decimal? (word : String) : Option Float :=
  let (negative, cs) := splitSign (skipSpace word.toList)
  let (whole, rest) := Decimal.spanDigits cs
  let (fraction, rest) := match rest with
    | '.' :: more => Decimal.spanDigits more
    | _ => ([], rest)
  let gathered := fraction.foldl Gathered.addFraction (whole.foldl Gathered.addWhole {})
  if gathered.digits = 0 then none
  else match exponentOf rest with
    | some (exponent, rest) =>
      let x := scale (if negative then -gathered.value else gathered.value) (gathered.exponent + exponent)
      if x.isFinite && (skipSpace rest).isEmpty then some x else none
    | none => none

/-- The words for infinity, without a sign. -/
def infinityWords : List String := ["inf", "infinity"]

/-- A double: a decimal number, or a word for infinity in any case of letters. -/
def double? (word : String) : Option Float :=
  match decimal? word with
  | some x => some x
  | none =>
    let (negative, cs) := splitSign word.toList
    if infinityWords.contains (String.ofList (cs.map Char.toLower)) then
      some (if negative then -(1.0 / 0.0) else 1.0 / 0.0)
    else none

/-! ## 4. Columns -/

/-- Read every field in one way; a missing value is missing in all of them. -/
def readAll (read : String → Option Value) : List String → Option (List Value)
  | [] => some []
  | word :: rest =>
    if missingWords.contains word then (readAll read rest).map (.missing :: ·)
    else match read word with
      | some value => (readAll read rest).map (value :: ·)
      | none => none

/-- A field is missing. -/
def anyMissing (words : List String) : Bool := words.any missingWords.contains

/-- A column of texts. -/
def textColumn (words : List String) : Column :=
  ⟨.text, words.map fun word => if missingWords.contains word then .missing else .text word⟩

/-- A column of doubles, of truth values or of texts. -/
def otherColumn (words : List String) : Column :=
  match readAll (fun word => (double? word).map .float) words with
  | some cells => ⟨.double, cells⟩
  | none =>
    match readAll (fun word => (Fields.get? truthWords word).map .bool) words with
    | some cells => ⟨if anyMissing words then .mixed else .truth, cells⟩
    | none => textColumn words

/-- A column of exact whole numbers of any size, or of texts. -/
def exactColumn (words : List String) : Column :=
  match readAll (fun word => (Text.Integer.readSigned Decimal.digit? (Text.stripChars word.toList)).map .int) words with
  | some cells => ⟨.mixed, cells⟩
  | none => textColumn words

/-- What the first field that is no whole number of 64 bits is. -/
inductive Obstacle where
  | beyond
  | noNumber
deriving DecidableEq, Repr

/-- The first field that is missing from the whole numbers that `fits`, if there is one. -/
def obstacle? (read : String → Option Int) (fits : Int → Bool) : List String → Option Obstacle
  | [] => none
  | word :: rest =>
    if missingWords.contains word then obstacle? read fits rest
    else match read word with
      | none => some .noNumber
      | some n => if fits n then obstacle? read fits rest else some .beyond

/-- A number with a minus in front, whatever follows it. -/
def isNegative (word : String) : Bool := (splitSign (skipSpace word.toList)).1

/-- A whole number without a sign; one with a minus counts as zero. -/
def unsigned? (word : String) : Option Int := if isNegative word then some 0 else whole? word

/-- A column of whole numbers some of which need more than 63 bits. -/
def wideColumn (words : List String) : Column :=
  match obstacle? unsigned? isCount64 words with
  | some .noNumber => otherColumn words
  | some .beyond => exactColumn words
  | none =>
    let negative := words.any isNegative
    let large := words.any fun word => match unsigned? word with
      | some n => !isWhole64 n
      | none => false
    if large && (negative || anyMissing words) then textColumn words
    else if negative then exactColumn words
    else ⟨.count, words.map fun word => .int ((whole? word).getD 0)⟩

/-- The column of the given fields; without any the type is open. -/
def columnOf (words : List String) : Column :=
  if words.isEmpty then ⟨.mixed, []⟩
  else match obstacle? whole? isWhole64 words with
    | some .noNumber => otherColumn words
    | some .beyond => wideColumn words
    | none =>
      let cells := words.map fun word => match whole? word with
        | some n => Value.int n
        | none => .missing
      if anyMissing words then ⟨.double, cells.map Value.asDouble⟩ else ⟨.whole, cells⟩

/-- The frame of a grid; columns that the header does not name are dropped. -/
def Grid.toFrame (grid : Grid) : Frame :=
  { columns := grid.names.mapIdx fun place name => (name, columnOf (grid.column place))
    height := grid.rows.length }

end TableSync.Csv
