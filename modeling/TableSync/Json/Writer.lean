/-
  TableSync/Json/Writer.lean
  ==========================
  **Writing JSON** — one writer, with the choices of a format as data.

  `Style` says what stands between items and after names, whether characters
  beyond ASCII are escaped and whether the fields of an object are sorted.
  Two formats use it: the compact one of commit metadata, which keeps all
  characters and the order of fields, and the one of log lines.
-/
import TableSync.Value
import TableSync.Text.Quoted
import TableSync.Value.Text

namespace TableSync.Json

/-- The choices of a JSON format. -/
structure Style where
  betweenItems : String
  afterName : String
  escapeNonAscii : Bool
  sortFields : Bool

/-- No blanks, all characters, fields in their order: the format of commit metadata. -/
def compact : Style := ⟨",", ":", false, false⟩

/-- Blanks after separators, ASCII only, fields sorted: the format of log lines. -/
def logged : Style := ⟨", ", ": ", true, true⟩

/-- The escape of a UTF-16 unit. -/
def unitEscape (n : Nat) : List Char := '\\' :: 'u' :: Text.hex 4 n

/-- One character inside a JSON string. -/
def stringChar (escapeNonAscii : Bool) (c : Char) : List Char :=
  if c = '"' then ['\\', '"']
  else if c = '\\' then ['\\', '\\']
  else if c = '\n' then ['\\', 'n']
  else if c = '\r' then ['\\', 'r']
  else if c = '\t' then ['\\', 't']
  else if c.toNat = 8 then ['\\', 'b']
  else if c.toNat = 12 then ['\\', 'f']
  else if c.toNat < 0x20 then unitEscape c.toNat
  else if escapeNonAscii && 0x7F ≤ c.toNat then
    if c.toNat < 0x10000 then unitEscape c.toNat
    else
      let offset := c.toNat - 0x10000
      unitEscape (0xD800 + offset / 0x400) ++ unitEscape (0xDC00 + offset % 0x400)
  else [c]

/-- A text as a JSON string. -/
def string (escapeNonAscii : Bool) (s : String) : String :=
  String.ofList ('"' :: (s.toList.flatMap (stringChar escapeNonAscii) ++ ['"']))

/-- Doubles as in the text of values; the three special ones have JSON names of their own. -/
def number (x : Float) : String := { Value.floatLayout with nan := "NaN", infinity := "Infinity" }.render x

/-- Fields by name in code point order, equal names in their order. -/
def sortByName {α : Type} (fields : Fields α) : Fields α :=
  fields.mergeSort fun a b => decide (a.1 ≤ b.1)

mutual

/-- A value in a style. -/
def write (style : Style) : Value → String
  | .null => "null"
  | .bool b => if b then "true" else "false"
  | .int n => toString n
  | .float x => number x
  | .text s => string style.escapeNonAscii s
  | .list items => "[" ++ style.betweenItems.intercalate (writeItems style items) ++ "]"
  | .object fields =>
    let written := writeFields style fields
    let ordered := if style.sortFields then sortByName written else written
    "\x7b" ++ style.betweenItems.intercalate (ordered.map fun field =>
      string style.escapeNonAscii field.1 ++ style.afterName ++ field.2) ++ "\x7d"

/-- The written items of a list. -/
def writeItems (style : Style) : List Value → List String
  | [] => []
  | item :: rest => write style item :: writeItems style rest

/-- The fields of an object, each with its written value. -/
def writeFields (style : Style) : List (String × Value) → Fields String
  | [] => []
  | (name, value) :: rest => (name, write style value) :: writeFields style rest

end

end TableSync.Json
