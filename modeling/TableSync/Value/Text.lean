/-
  TableSync/Value/Text.lean
  =========================
  **The text of a value** — in keys, partition paths and messages.

  `Value.display` is how a value reads on its own; `Value.literal` how it is
  written inside a list or an object.  They differ for text alone, which is
  quoted in a literal.  The spelling of null, of truth values and of doubles
  is this library's own and is collected here.
-/
import TableSync.Value
import TableSync.Text.Quoted
import TableSync.Decimal.Shortest

namespace TableSync

/-- Doubles are positional from `10 ^ -4` up to `10 ^ 16`; an exponent has at least two digits. -/
def Value.floatLayout : Decimal.Layout := ⟨-4, 16, 2, "nan", "inf"⟩

/-- A truth value in text. -/
def boolText (b : Bool) : String := if b then "True" else "False"

mutual

/-- A value as written inside a list or an object. -/
def Value.literal : Value → String
  | .null => "None"
  | .bool b => boolText b
  | .int n => toString n
  | .float x => Value.floatLayout.render x
  | .text s => Text.quoted s
  | .list items => "[" ++ ", ".intercalate (Value.literals items) ++ "]"
  | .object fields => "\x7b" ++ ", ".intercalate (Value.fieldLiterals fields) ++ "\x7d"

/-- The literals of a list. -/
def Value.literals : List Value → List String
  | [] => []
  | item :: rest => item.literal :: Value.literals rest

/-- The literals of an object's fields. -/
def Value.fieldLiterals : List (String × Value) → List String
  | [] => []
  | (name, value) :: rest =>
    (Text.quoted name ++ ": " ++ value.literal) :: Value.fieldLiterals rest

end

namespace Value

/-- A value on its own: text as it is, anything else as a literal. -/
def display : Value → String
  | text s => s
  | value => value.literal

@[simp] theorem display_text (s : String) : display (text s) = s := rfl

/-- A list of texts as a literal. -/
def textsLiteral (items : List String) : String := literal (list (items.map text))

/-- An optional text in a message: its own characters, or the spelling of null. -/
def optionText : Option String → String
  | none => "None"
  | some s => s

end Value

end TableSync
