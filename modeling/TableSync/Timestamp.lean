/-
  TableSync/Timestamp.lean
  ========================
  **Moments of UTC time** — the clock, its calendar and its two texts.

  A `Timestamp` counts microseconds from the first moment of year 1, so moments
  are compared and advanced as numbers.  `Timestamp.calendar` takes one apart
  into the fields of the proleptic Gregorian calendar; `iso` writes them for
  people and `instantTime` as the digits that order the instants of a table,
  cut to milliseconds.
-/
import TableSync.Number

namespace TableSync

/-- Microseconds since the first moment of year 1. -/
structure Timestamp where
  micros : Int
deriving DecidableEq, Repr, Inhabited

/-- The fields of a moment in the calendar. -/
structure Calendar where
  year : Nat
  month : Nat
  day : Nat
  hour : Nat
  minute : Nat
  second : Nat
  micro : Nat
deriving DecidableEq, Repr

namespace Calendar

/-! ## 1. The calendar -/

/-- A year with a leap day. -/
def isLeap (year : Nat) : Bool := year % 4 == 0 && (year % 100 != 0 || year % 400 == 0)

/-- The lengths of a year's months. -/
def monthLengths (leap : Bool) : List Nat :=
  [31, if leap then 29 else 28, 31, 30, 31, 30, 31, 31, 30, 31, 30, 31]

/-- The days before a year. -/
def daysBeforeYear (year : Nat) : Nat :=
  let past := year - 1
  365 * past + past / 4 - past / 100 + past / 400

/-- The month and the day of the month for a day of the year that counts from zero. -/
def monthOfDay : List Nat → Nat → Nat → Nat × Nat
  | [], month, day => (month, day + 1)
  | length :: rest, month, day =>
    if day < length then (month, day + 1) else monthOfDay rest (month + 1) (day - length)

/-- The year and the day of the year, both from day `n` since the first day of year 1: years come in
cycles of 400, 100, 4 and 1, and the last year of a long cycle keeps its leap day. -/
def yearOfDay (n : Nat) : Nat × Nat :=
  let fourHundreds := n / 146097
  let inFourHundred := n % 146097
  let hundreds := min (inFourHundred / 36524) 3
  let inHundred := inFourHundred - hundreds * 36524
  let fours := inHundred / 1461
  let inFour := inHundred % 1461
  let ones := min (inFour / 365) 3
  (400 * fourHundreds + 100 * hundreds + 4 * fours + ones + 1, inFour - ones * 365)

/-- The days from the first day of year 1 to a date. -/
def dayNumber (year month day : Nat) : Nat :=
  daysBeforeYear year + ((monthLengths (isLeap year)).take (month - 1)).foldr (· + ·) 0 + (day - 1)

/-- The moment of calendar fields. -/
def toTimestamp (c : Calendar) : Timestamp :=
  ⟨((((dayNumber c.year c.month c.day * 24 + c.hour) * 60 + c.minute) * 60 + c.second : Nat) : Int)
    * 1000000 + c.micro⟩

/-- Calendar fields that name a moment. -/
def isValid (c : Calendar) : Bool :=
  1 ≤ c.year && c.year ≤ 9999 && 1 ≤ c.month && c.month ≤ 12 && 1 ≤ c.day &&
  c.day ≤ ((monthLengths (isLeap c.year))[c.month - 1]?.getD 0) &&
  c.hour < 24 && c.minute < 60 && c.second < 60 && c.micro < 1000000

end Calendar

namespace Timestamp

/-- The calendar fields of a moment. -/
def calendar (t : Timestamp) : Calendar :=
  let total := t.micros.toNat
  let seconds := total / 1000000
  let days := seconds / 86400
  let (year, dayOfYear) := Calendar.yearOfDay days
  let (month, day) := Calendar.monthOfDay (Calendar.monthLengths (Calendar.isLeap year)) 1 dayOfYear
  ⟨year, month, day, seconds / 3600 % 24, seconds / 60 % 60, seconds % 60, total % 1000000⟩

/-! ## 2. Texts -/

/-- Date and time for people; the fraction of a second is written only where there is one. -/
def iso (t : Timestamp) : String :=
  let c := t.calendar
  let whole := Decimal.padded 4 c.year ++ "-" ++ Decimal.padded 2 c.month ++ "-" ++
    Decimal.padded 2 c.day ++ "T" ++ Decimal.padded 2 c.hour ++ ":" ++ Decimal.padded 2 c.minute ++
    ":" ++ Decimal.padded 2 c.second
  if c.micro = 0 then whole else whole ++ "." ++ Decimal.padded 6 c.micro

/-- Date and time to the second, a blank between them. -/
def clockText (t : Timestamp) : String :=
  String.ofList ((t.iso.toList.take 19).map fun c => if c = 'T' then ' ' else c)

/-- The moment that a number of microseconds after the beginning of 1970 is. -/
def ofEpochMicros (micros : Int) : Timestamp :=
  ⟨(Calendar.toTimestamp ⟨1970, 1, 1, 0, 0, 0, 0⟩).micros + micros⟩

/-- Year, month, day, hour, minute, second and millisecond as digits without separators. -/
def instantTime (t : Timestamp) : String :=
  let c := t.calendar
  let digits := Decimal.text c.year ++ Decimal.padded 2 c.month ++ Decimal.padded 2 c.day ++
    Decimal.padded 2 c.hour ++ Decimal.padded 2 c.minute ++ Decimal.padded 2 c.second ++
    Decimal.padded 6 c.micro
  String.ofList (digits.toList.take 17)

/-- Read two digits. -/
def twoDigits? : List Char → Option (Nat × List Char)
  | a :: b :: rest => do
    let a ← Decimal.digit? a
    let b ← Decimal.digit? b
    some (10 * a + b, rest)
  | _ => none

/-- The fraction of a second in microseconds; digits beyond the sixth are dropped. -/
def fraction? : List Char → Option Nat
  | [] => some 0
  | '.' :: digits =>
    if digits.isEmpty ∨ !digits.all Char.isDigit then none
    else some (Decimal.ofDigits 0 ((digits ++ List.replicate 6 '0').take 6))
  | _ => none

/-- The time of day after its mark: hours, then minutes, then seconds with a fraction. -/
def timeOfDay? (cs : List Char) : Option (Nat × Nat × Nat × Nat) :=
  match cs with
  | [] => some (0, 0, 0, 0)
  | _ :: cs => do
    let (hour, cs) ← twoDigits? cs
    match cs with
    | ':' :: cs =>
      let (minute, cs) ← twoDigits? cs
      match cs with
      | ':' :: cs =>
        let (second, cs) ← twoDigits? cs
        let micro ← fraction? cs
        some (hour, minute, second, micro)
      | [] => some (hour, minute, 0, 0)
      | _ => none
    | [] => some (hour, 0, 0, 0)
    | _ => none

/-- Read a date, with or without a time of day. -/
def ofIso? (s : String) : Option Timestamp := do
  let (century, cs) ← twoDigits? s.toList
  let (inCentury, cs) ← twoDigits? cs
  match cs with
  | '-' :: cs =>
    let (month, cs) ← twoDigits? cs
    match cs with
    | '-' :: cs =>
      let (day, cs) ← twoDigits? cs
      let (hour, minute, second, micro) ← timeOfDay? cs
      let c : Calendar := ⟨100 * century + inCentury, month, day, hour, minute, second, micro⟩
      if c.isValid then some c.toTimestamp else none
    | _ => none
  | _ => none

/-! ## 3. Moving the clock -/

/-- A double rounded to the nearest whole number, a half to the even neighbour. -/
def roundHalfEven (x : Float) : Int :=
  match Binary64.decode x with
  | .finite negative m q =>
    let magnitude : Nat :=
      if 0 ≤ q then m * twoTo q.toNat
      else
        let unit := twoTo (-q).toNat
        let whole := m / unit
        let twice := 2 * (m % unit)
        if twice < unit ∨ (twice = unit ∧ whole % 2 = 0) then whole else whole + 1
    if negative then -(magnitude : Int) else magnitude
  | _ => 0

/-- A duration in units of `perUnit` microseconds; a double counts its whole part exactly and its
fraction rounded to microseconds. -/
def durationMicros (perUnit : Nat) : Number → Int
  | .whole n => n * perUnit
  | .double x =>
    let whole := (Number.double x).truncate
    whole * perUnit + roundHalfEven ((x - Float.ofInt whole) * Float.ofInt perUnit)

/-- The moment a number of seconds later. -/
def addSeconds (t : Timestamp) (seconds : Number) : Timestamp :=
  ⟨t.micros + durationMicros 1000000 seconds⟩

/-- The moment a number of milliseconds later. -/
def addMillis (t : Timestamp) (millis : Number) : Timestamp :=
  ⟨t.micros + durationMicros 1000 millis⟩

/-- Seconds from one moment to another, as a double. -/
def secondsSince (later earlier : Timestamp) : Float :=
  Float.ofInt (later.micros - earlier.micros) / 1000000.0

end Timestamp

end TableSync
