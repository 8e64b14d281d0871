/-
  TableSync/Filter/Token.lean
  ===========================
  **The words of a row filter.**

  A filter is made of names, numbers, quoted texts and operators, with blanks
  between them where need be.  A name that is not a plain word stands between
  back quotes; a name after an at sign belongs to the surroundings of the
  filter and not to its rows.  The signs for "and" and "or" are the words, and
  a remark runs from its mark to the end.
-/
import TableSync.Value
import TableSync.Decimal.Reading
import TableSync.Json.Reader

namespace TableSync.Filter

/-- A word of a filter. -/
inductive Token where
  | literal (value : Value)
  | name (s : String)
  | outer (s : String)
  | word (s : String)
  | sign (s : String)
deriving Inhabited

/-! ## 1. Characters -/

/-- A character that may begin a name. -/
def beginsName (c : Char) : Bool := c.isAlpha || c == '_' || 0x80 ≤ c.toNat

/-- A character that may stand inside a name. -/
def continuesName (c : Char) : Bool := beginsName c || c.isDigit

/-- The mark around a name that is not a plain word. -/
def backQuote : Char := Char.ofNat 0x60

/-- Words with a meaning of their own. -/
def operatorWords : List String := ["and", "or", "not", "in"]

/-- Words that cannot be names. -/
def reservedWords : List String :=
  ["as", "assert", "async", "await", "break", "class", "continue", "def", "del", "elif", "else", "except", "finally",
   "for", "from", "global", "if", "import", "is", "lambda", "nonlocal", "pass", "raise", "return", "try", "while",
   "with", "yield"]

/-- The values that have names. -/
def namedValues : Fields Value := [("True", .bool true), ("False", .bool false), ("None", .null)]

/-- The token of a name. -/
def ofName (s : String) : Token :=
  match Fields.get? namedValues s with
  | some value => .literal value
  | none => if operatorWords.contains s || reservedWords.contains s then .word s else .name s

/-- The signs that change what stands on their left. -/
def changeSigns : List String :=
  ["**=", "//=", "<<=", ">>=", "+=", "-=", "*=", "/=", "%=", "&=", "|=", "^="]

/-- The other signs, longer ones first. -/
def signs : List String :=
  ["**", "//", "<=", ">=", "==", "!=", "<<", ">>", ":=", "(", ")", "[", "]", "\x7b", "\x7d", ",", ".", "+", "-", "*",
   "/", "%", "<", ">", "=", "~", "^", ":", ";"]

/-- Signs that stand for words. -/
def signWords : Fields String := [("&", "and"), ("|", "or")]

/-! ## 2. Numbers and texts -/

/-- Digits with single underscores between them, and what follows. -/
def digitRun : List Char → List Char × List Char
  | c :: rest =>
    if c.isDigit then
      let (digits, after) := digitRun rest
      (c :: digits, after)
    else match c, rest with
      | '_', d :: _ => if d.isDigit then digitRun rest else ([], c :: rest)
      | _, _ => ([], c :: rest)
  | [] => ([], [])

/-- The exponent at the start of a text, if there is one, and what follows. -/
def exponent (cs : List Char) : Option Int × List Char :=
  match cs with
  | mark :: rest =>
    if mark = 'e' ∨ mark = 'E' then
      let (negative, digits) := match rest with
        | '-' :: more => (true, more)
        | '+' :: more => (false, more)
        | _ => (false, rest)
      let (found, after) := digitRun digits
      if found.isEmpty then (none, cs)
      else
        let n : Int := Decimal.ofDigits 0 found
        (some (if negative then -n else n), after)
    else (none, cs)
  | [] => (none, [])

/-- The base of digits after a zero and a letter. -/
def baseOf? (c : Char) : Option Nat :=
  if c = 'x' ∨ c = 'X' then some 16 else if c = 'o' ∨ c = 'O' then some 8 else if c = 'b' ∨ c = 'B' then some 2 else none

/-- A whole number in a base other than ten at the start of a text, and what follows. -/
def basedNumber? (cs : List Char) : Option (Value × List Char) :=
  match cs with
  | '0' :: mark :: rest => do
    let base ← baseOf? mark
    let (digits, after) := rest.span fun c => (Json.hexDigit? c).any (· < base)
    if digits.isEmpty || after.head?.any continuesName then none
    else some (.int (digits.foldl (fun n c => base * n + (Json.hexDigit? c).getD 0) 0), after)
  | _ => none

/-- A number at the start of a text, and what follows; a whole number has no leading zero. -/
def number? (cs : List Char) : Option (Value × List Char) :=
  let (whole, rest) := if cs.head?.any Char.isDigit then digitRun cs else ([], cs)
  let (fraction, rest) := match rest with
    | '.' :: more => if more.head?.any Char.isDigit then
        let (digits, after) := digitRun more
        (some digits, after)
      else (some [], more)
    | _ => (none, rest)
  let (exp, rest) := exponent rest
  let value : Option Value := match fraction, exp with
    | none, none =>
      if whole.head? = some '0' && whole.any (· != '0') then none
      else some (.int (Decimal.ofDigits 0 whole))
    | _, _ =>
      let digits := fraction.getD []
      if whole.isEmpty && digits.isEmpty then none
      else some (.float (Decimal.toFloat (Decimal.ofDigits (Decimal.ofDigits 0 whole) digits)
        (exp.getD 0 - digits.length)))
  if rest.head?.any beginsName then none else value.map fun v => (v, rest)

/-- Characters with a short escape. -/
def escapes : List (Char × Char) :=
  [('n', '\n'), ('t', '\t'), ('r', '\r'), ('\\', '\\'), ('\'', '\''), ('"', '"'), ('0', '\x00'), ('a', '\x07'),
   ('b', '\x08'), ('f', '\x0c'), ('v', '\x0b')]

/-- The rest of a text up to its closing quote, and what follows; an unknown escape stands for itself. -/
def quoted? (quote : Char) : List Char → Option (List Char × List Char)
  | [] => none
  | '\\' :: c :: rest =>
    match escapes.find? fun escape => escape.1 == c with
    | some (_, meant) => (quoted? quote rest).map fun (cs, after) => (meant :: cs, after)
    | none => (quoted? quote rest).map fun (cs, after) => ('\\' :: c :: cs, after)
  | c :: rest =>
    if c = quote then some ([], rest)
    else if c = '\n' ∨ c = '\\' then none
    else (quoted? quote rest).map fun (cs, after) => (c :: cs, after)

/-! ## 3. All words -/

/-- The sign at the start of a text, and what follows. -/
def sign? (cs : List Char) : Option (Token × List Char) :=
  match cs with
  | [] => none
  | c :: rest =>
    match changeSigns.find? fun s => s.toList.isPrefixOf cs, Fields.get? signWords (String.singleton c) with
    | some s, _ => some (.sign s, cs.drop s.length)
    | none, some word => some (.word word, rest)
    | none, none => (signs.find? fun s => s.toList.isPrefixOf cs).map fun s => (.sign s, cs.drop s.length)

/-- The name at the start of a text, and what follows. -/
def name? (cs : List Char) : Option (String × List Char) :=
  if cs.head?.any beginsName then
    let (name, rest) := cs.span continuesName
    some (String.ofList name, rest)
  else none

/-- The word at the start of a text without blanks in front, and what follows. -/
def next? (cs : List Char) : Option (Token × List Char) :=
  match cs with
  | [] => none
  | c :: rest =>
    if beginsName c then (name? cs).map fun (name, after) => (ofName name, after)
    else if c.isDigit || (c == '.' && rest.head?.any Char.isDigit) then
      (basedNumber? cs <|> number? cs).map fun (value, after) => (.literal value, after)
    else if c = '\'' ∨ c = '"' then
      (quoted? c rest).map fun (text, after) => (.literal (.text (String.ofList text)), after)
    else if c = backQuote then
      let (name, after) := rest.span (· != backQuote)
      if after.isEmpty then none else some (.name (String.ofList name), after.drop 1)
    else if c = '@' then (name? rest).map fun (name, after) => (.outer name, after)
    else sign? cs

/-- The mark of a remark. -/
def remark : Char := '#'

/-- The words of a text; none if it holds something else. `fuel` is the length of the text. -/
def scan : Nat → List Char → Option (List Token)
  | 0, cs => if cs.isEmpty then some [] else none
  | _ + 1, [] => some []
  | fuel + 1, c :: rest =>
    if c = ' ' ∨ c = '\t' ∨ c = '\x0c' then scan fuel rest
    else if c = remark then some []
    else match next? (c :: rest) with
      | some (token, after) => (scan fuel after).map (token :: ·)
      | none => none

/-- The words of a filter. -/
def tokens? (s : String) : Option (List Token) := scan s.length s.toList

/-! ## 4. Brackets -/

/-- How many brackets of a text are opened and not closed; those in quoted texts and remarks do not count.
`fuel` is the length of the text. -/
def openBrackets : Nat → List Char → Int
  | 0, _ => 0
  | _ + 1, [] => 0
  | fuel + 1, c :: rest =>
    if c = remark then 0
    else if c = '\'' ∨ c = '"' then
      match quoted? c rest with
      | some (_, after) => openBrackets fuel after
      | none => openBrackets fuel rest
    else
      let here : Int := if "([\x7b".toList.contains c then 1 else if ")]\x7d".toList.contains c then -1 else 0
      here + openBrackets fuel rest

/-- As many brackets are closed as are opened. -/
def isBalanced (s : String) : Bool := openBrackets (s.length + 1) s.toList == 0

end TableSync.Filter
