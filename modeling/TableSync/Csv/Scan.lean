/-
  TableSync/Csv/Scan.lean
  =======================
  **The fields of a file** — lines, commas and quotes.

  A line ends with a line feed, a carriage return, or both.  Lines of blanks
  alone count for nothing.  A field that begins with a quote runs to the
  closing one, two quotes inside it being one; a quote further on in a field is
  a character like any other.  `Grid.ofText` gives every row the width of the
  first one below the header and refuses a row that is wider.
-/

namespace TableSync.Csv

/-! ## 1. Rows -/

/-- Where in a line the scan is. -/
inductive Place where
  /-- At the start of a line, after the given blanks. -/
  | lineStart
  /-- At the start of a field. -/
  | fieldStart
  /-- Inside a field without quotes, or after its closing quote. -/
  | plain
  /-- Inside quotes. -/
  | quoted
  /-- After a quote inside quotes. -/
  | quoteSeen
deriving DecidableEq, Repr

/-- What has been scanned: the rows, the fields of the current one and the characters of the current
field, all in reverse. -/
structure Scanned where
  rows : List (List String) := []
  fields : List String := []
  chars : List Char := []
deriving Repr, Inhabited

namespace Scanned

/-- One more character of the current field. -/
def push (scanned : Scanned) (c : Char) : Scanned := { scanned with chars := c :: scanned.chars }

/-- The current field ends. -/
def endField (scanned : Scanned) : Scanned :=
  { scanned with fields := String.ofList scanned.chars.reverse :: scanned.fields, chars := [] }

/-- The current field and its row end. -/
def endRow (scanned : Scanned) : Scanned :=
  let ended := scanned.endField
  { rows := ended.fields.reverse :: ended.rows }

/-- The current line counts for nothing. -/
def dropLine (scanned : Scanned) : Scanned := { scanned with fields := [], chars := [] }

end Scanned

/-- One character that does not end a line. -/
def scanChar (place : Place) (scanned : Scanned) (c : Char) : Place × Scanned :=
  match place with
  | .quoted => if c = '"' then (.quoteSeen, scanned) else (.quoted, scanned.push c)
  | .quoteSeen =>
    if c = '"' then (.quoted, scanned.push c)
    else if c = ',' then (.fieldStart, scanned.endField)
    else (.plain, scanned.push c)
  | .plain => if c = ',' then (.fieldStart, scanned.endField) else (.plain, scanned.push c)
  | .fieldStart =>
    if c = '"' then (.quoted, scanned)
    else if c = ',' then (.fieldStart, scanned.endField)
    else (.plain, scanned.push c)
  | .lineStart =>
    if c = ' ' ∨ c = '\t' then (.lineStart, scanned.push c)
    else if c = ',' then (.fieldStart, scanned.endField)
    else if c = '"' ∧ scanned.chars.isEmpty then (.quoted, scanned)
    else (.plain, scanned.push c)

/-- The end of a line outside quotes. -/
def scanLineEnd (place : Place) (scanned : Scanned) : Scanned :=
  if place = .lineStart then scanned.dropLine else scanned.endRow

/-- Scan a text to its end; none if it ends inside quotes. -/
def scanFrom (place : Place) (scanned : Scanned) : List Char → Option (List (List String))
  | [] => if place = .quoted then none else some (scanLineEnd place scanned).rows.reverse
  | '\r' :: '\n' :: rest =>
    if place = .quoted then scanFrom .quoted ((scanned.push '\r').push '\n') rest
    else scanFrom .lineStart (scanLineEnd place scanned) rest
  | c :: rest =>
    if place ≠ .quoted ∧ (c = '\n' ∨ c = '\r') then scanFrom .lineStart (scanLineEnd place scanned) rest
    else
      let (place, scanned) := scanChar place scanned c
      scanFrom place scanned rest

/-- The mark that may stand in front of a text. -/
def withoutMark : List Char → List Char
  | '\uFEFF' :: rest => rest
  | cs => cs

/-- The rows of a text; none if it ends inside quotes. -/
def rowsOf (text : String) : Option (List (List String)) := scanFrom .lineStart {} (withoutMark text.toList)

/-! ## 2. Grids -/

/-- A header and rows of one width; columns in front of those that the header names are `unnamed`. -/
structure Grid where
  header : List String
  rows : List (List String)
  unnamed : Nat := 0
deriving Repr, Inhabited

/-- Empty fields at the end up to a width. -/
def widened (width : Nat) (row : List String) : List String := row ++ List.replicate (width - row.length) ""

/-- What a text holds. -/
inductive Reading where
  /-- No line that counts. -/
  | blank
  /-- A header with rows. -/
  | grid (grid : Grid)
  /-- Quotes that are not closed, or a row that is too wide. -/
  | malformed
deriving Repr, Inhabited

/-- A header with rows: the first row sets the width, which is at least that of the header. -/
def Grid.ofRows (header : List String) (rows : List (List String)) : Reading :=
  match rows with
  | [] => .grid { header, rows }
  | first :: _ =>
    let width := max header.length first.length
    if rows.all fun row => row.length ≤ width then
      .grid { header, rows := rows.map (widened width), unnamed := width - header.length }
    else .malformed

/-- The grid of a text. -/
def Grid.ofText (text : String) : Reading :=
  match rowsOf text with
  | none => .malformed
  | some [] => .blank
  | some (header :: rows) => Grid.ofRows header rows

/-! ## 3. Names of columns -/

/-- A name for a column whose header is empty. -/
def unnamedAt (place : Nat) : String := "Unnamed: " ++ toString place

/-- The names in a header, empty ones replaced, and whether each was replaced. -/
def replaced (header : List String) : List (String × Bool) :=
  header.mapIdx fun place name => if name.isEmpty then (unnamedAt place, true) else (name, false)

/-- The number of times that a name was seen. -/
def timesSeen (counts : List (String × Nat)) (name : String) : Nat :=
  ((counts.find? fun count => count.1 == name).map Prod.snd).getD 0

/-- A name with a number after it that no column has; `fuel` bounds the search. -/
def freshName (taken : List String) (name : String) (counts : List (String × Nat)) : Nat → Nat → String × List (String × Nat)
  | 0, number => (name ++ "." ++ toString number, counts)
  | fuel + 1, number =>
    let counts := (name, number + 1) :: counts
    let candidate := name ++ "." ++ toString number
    if taken.contains candidate then freshName taken name counts fuel (number + 1)
    else match timesSeen counts candidate with
      | 0 => (candidate, counts)
      | again => freshName taken name counts fuel again

/-- Give repeated names numbers, going through the columns at the given places. -/
def distinctFrom (counts : List (String × Nat)) (names : List String) : List Nat → List String
  | [] => names
  | place :: rest =>
    let name := names[place]?.getD ""
    match timesSeen counts name with
    | 0 => distinctFrom ((name, 1) :: counts) names rest
    | number =>
      let (fresh, counts) := freshName names name counts (2 * names.length + number + 2) number
      distinctFrom ((fresh, timesSeen counts fresh + 1) :: counts) (names.set place fresh) rest

/-- The names of the columns: different ones, those that a header names going before those that it
leaves empty. -/
def Grid.names (grid : Grid) : List String :=
  let names := replaced grid.header
  let places := List.range names.length
  let isReplaced (place : Nat) : Bool := (names[place]?.map Prod.snd).getD false
  distinctFrom [] (names.map Prod.fst) (places.filter (fun p => !isReplaced p) ++ places.filter isReplaced)

/-- The fields of the column at a place. -/
def Grid.column (grid : Grid) (place : Nat) : List String :=
  grid.rows.map fun row => row[grid.unnamed + place]?.getD ""

end TableSync.Csv
