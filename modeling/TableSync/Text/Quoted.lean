/-
  TableSync/Text/Quoted.lean
  ==========================
  **Quoted text** — a text as it is shown inside a list, an object or an error.

  The quote is a single one unless the text holds single quotes and no double
  ones.  The quote and the backslash are escaped, three blanks have short
  forms, and a hidden character is written by its code point with as many hex
  digits as its size needs.
-/
import TableSync.Text.Printable

namespace TableSync.Text

/-- The last `width` hex digits of a number. -/
def hex (width n : Nat) : List Char :=
  let digits := Nat.toDigits 16 n
  List.replicate (width - digits.length) '0' ++ digits

/-- The escape of a hidden character. -/
def codePointEscape (n : Nat) : List Char :=
  if n < 0x100 then '\\' :: 'x' :: hex 2 n
  else if n < 0x10000 then '\\' :: 'u' :: hex 4 n
  else '\\' :: 'U' :: hex 8 n

/-- One character inside quotes. -/
def quotedChar (quote c : Char) : List Char :=
  if c = quote ∨ c = '\\' then ['\\', c]
  else if c = '\n' then ['\\', 'n']
  else if c = '\r' then ['\\', 'r']
  else if c = '\t' then ['\\', 't']
  else if isPrintable c then [c]
  else codePointEscape c.toNat

/-- The quote that a text is written in. -/
def quoteOf (cs : List Char) : Char := if cs.contains '\'' && !cs.contains '"' then '"' else '\''

/-- A text in quotes. -/
def quoted (s : String) : String :=
  let cs := s.toList
  let quote := quoteOf cs
  String.ofList (quote :: (cs.flatMap (quotedChar quote) ++ [quote]))

end TableSync.Text
