/-
  TableSync/Filter/Expr.lean
  ==========================
  **Row filters as expressions** — their form, and how they are read.

  Operators bind in layers: "or", "and", "not", comparisons, sums, products,
  signs, powers.  Comparisons in a row hold together: `1 < a < 3` is both of
  them.  An operand may be followed by a question to its column, which stands
  behind a point and has its arguments in parentheses.

  The language has more forms than filters have.  Such a form is read all the
  same, as `Expr.foreign`, so that it is told apart from a text that is no
  expression.
-/
import TableSync.Filter.Token
import TableSync.Failure.Kind

namespace TableSync.Filter

/-! ## 1. Expressions -/

/-- Operators on numbers. -/
inductive Arithmetic where
  | add
  | subtract
  | multiply
  | divide
  | divideDown
  | remainder
  | power
deriving DecidableEq, Repr

/-- Operators that compare. -/
inductive Comparison where
  | equal
  | notEqual
  | less
  | lessEqual
  | greater
  | greaterEqual
  | within
  | notWithin
deriving DecidableEq, Repr

/-- Signs in front of an operand. -/
inductive Sign where
  | plus
  | minus
  | negation
deriving DecidableEq, Repr

/-- An expression over the columns of a row. -/
inductive Expr where
  | literal (value : Value)
  | name (s : String)
  | outer (s : String)
  | list (items : List Expr)
  | signed (sign : Sign) (operand : Expr)
  | arithmetic (op : Arithmetic) (left right : Expr)
  | compare (op : Comparison) (left right : Expr)
  | both (left right : Expr)
  | either (left right : Expr)
  /-- A question to a column. -/
  | ask (question : List String) (subject : Expr) (arguments : List Expr)
  /-- A part of a column. -/
  | part (path : List String) (subject : Expr)
  /-- A function by its name. -/
  | call (function : String) (arguments : List Expr)
  /-- An argument by its name. -/
  | named (name : String) (value : Expr)
  /-- A form that filters do not have, the failure that it is, and the parts that are looked at before. -/
  | foreign (kind : OutsideKind) (parts : List Expr)
deriving Inhabited

/-- An expression that comes to a value without an operator around it. -/
def Expr.isTerm : Expr → Bool
  | literal _ | name _ | outer _ | list _ | ask .. | part .. => true
  | compare .within _ _ | compare .notWithin _ _ => true
  | _ => false

/-! ## 2. Operators in text -/

/-- The layers in which operators bind, from loose to tight. -/
def Layer.choice : Nat := 0
def Layer.either : Nat := 1
def Layer.both : Nat := 2
def Layer.negation : Nat := 3
def Layer.comparison : Nat := 4
def Layer.exclusive : Nat := 5
def Layer.shift : Nat := 6
def Layer.sum : Nat := 7
def Layer.product : Nat := 8
def Layer.sign : Nat := 9
def Layer.power : Nat := 10

/-- An operator between two operands that filters do not have. -/
def foreignPair (kind : OutsideKind) (left right : Expr) : Expr := .foreign kind [left, right]

/-- The operators that are signs between two operands, with their layers. -/
def binarySigns : Fields (Nat × (Expr → Expr → Expr)) :=
  [("+", Layer.sum, .arithmetic .add), ("-", Layer.sum, .arithmetic .subtract),
   ("*", Layer.product, .arithmetic .multiply), ("/", Layer.product, .arithmetic .divide),
   ("//", Layer.product, .arithmetic .divideDown), ("%", Layer.product, .arithmetic .remainder),
   ("**", Layer.power, .arithmetic .power), ("^", Layer.exclusive, foreignPair .attribute),
   ("<<", Layer.shift, foreignPair .attribute), (">>", Layer.shift, foreignPair .attribute)]

/-- The comparisons that are written as signs. -/
def comparisonSigns : Fields Comparison :=
  [("==", .equal), ("!=", .notEqual), ("<", .less), ("<=", .lessEqual), (">", .greater), (">=", .greaterEqual)]

/-- The comparison at the start of words, and what follows. -/
def comparison? : List Token → Option ((Expr → Expr → Expr) × List Token)
  | .sign s :: rest => (Fields.get? comparisonSigns s).map fun op => (.compare op, rest)
  | .word "in" :: rest => some (.compare .within, rest)
  | .word "not" :: .word "in" :: rest => some (.compare .notWithin, rest)
  | .word "is" :: .word "not" :: rest => some (foreignPair .unsupported, rest)
  | .word "is" :: rest => some (foreignPair .unsupported, rest)
  | _ => none

/-- The signs in front of an operand. -/
def leadingSigns : Fields Sign := [("+", .plus), ("-", .minus), ("~", .negation)]

/-! ## 3. Reading -/

/-- What was read, and the words after it. -/
abbrev Parsed (α : Type) := Option (α × List Token)

/-- Names behind points, and what follows. -/
def pathAfter : List Token → List String × List Token
  | .sign "." :: .name s :: rest =>
    let (path, after) := pathAfter rest
    (s :: path, after)
  | tokens => ([], tokens)

/-- What follows the names of parameters and the colon after them. -/
def afterParameters : List Token → Option (List Token)
  | .sign ":" :: rest => some rest
  | .name _ :: rest => afterParameters rest
  | .sign "," :: rest => afterParameters rest
  | _ => none

mutual

/-- An expression whose operators bind in a layer or tighter. -/
def expression? : Nat → Nat → List Token → Parsed Expr
  | 0, _, _ => none
  | fuel + 1, layer, tokens =>
    match operand? fuel layer tokens with
    | some (left, rest) => extend? fuel layer left rest
    | none => none

/-- An operand, with the signs in front of it and the questions behind it. -/
def operand? : Nat → Nat → List Token → Parsed Expr
  | 0, _, _ => none
  | fuel + 1, layer, tokens =>
    match tokens with
    | .word "not" :: rest =>
      if layer ≤ Layer.negation then
        (expression? fuel Layer.negation rest).map fun (e, rest) => (.signed .negation e, rest)
      else none
    | .word "lambda" :: rest =>
      if layer ≤ Layer.choice then
        match (afterParameters rest).bind (expression? fuel Layer.choice) with
        | some (_, rest) => some (.foreign .unsupported [], rest)
        | none => none
      else none
    | .sign s :: rest =>
      match Fields.get? leadingSigns s with
      | some sign => (expression? fuel Layer.sign rest).map fun (e, rest) => (.signed sign e, rest)
      | none =>
        let bracketed :=
          if s = "(" then parenthesis? fuel rest
          else if s = "[" then (items? fuel "]" false rest).map fun (items, rest) => (.list items, rest)
          else if s = "\x7b" then (items? fuel "\x7d" false rest).map fun (_, rest) => (.foreign .unsupported [], rest)
          else none
        match bracketed with
        | some (e, rest) => asked? fuel e rest
        | none => none
    | .literal value :: rest => asked? fuel (.literal value) rest
    | .outer s :: rest => asked? fuel (.outer s) rest
    | .name s :: .sign "(" :: rest =>
      match items? fuel ")" true rest with
      | some (items, rest) => asked? fuel (.call s items) rest
      | none => none
    | .name s :: rest => asked? fuel (.name s) rest
    | _ => none

/-- An operand with the questions behind it. -/
def asked? : Nat → Expr → List Token → Parsed Expr
  | 0, _, _ => none
  | fuel + 1, subject, tokens =>
    match tokens with
    | .sign "(" :: rest =>
      match items? fuel ")" true rest with
      | some (_, rest) => asked? fuel (.foreign .type []) rest
      | none => none
    | .sign "[" :: rest =>
      match items? fuel "]" false rest with
      | some (items, rest) => asked? fuel (.ask ["item"] subject items) rest
      | none => none
    | _ =>
      match pathAfter tokens with
      | ([], .sign "." :: _) => none
      | ([], rest) => some (subject, rest)
      | (path, .sign "(" :: rest) =>
        match items? fuel ")" true rest with
        | some (items, rest) => asked? fuel (.ask path subject items) rest
        | none => none
      | (path, rest) => asked? fuel (.part path subject) rest

/-- What stands between parentheses: an expression, or a list if there is a comma. -/
def parenthesis? : Nat → List Token → Parsed Expr
  | 0, _ => none
  | fuel + 1, tokens =>
    match tokens with
    | .sign ")" :: rest => some (.list [], rest)
    | .name _ :: .sign ":=" :: rest =>
      match expression? fuel Layer.choice rest with
      | some (_, .sign ")" :: rest) => some (.foreign .attribute [], rest)
      | _ => none
    | _ =>
      match expression? fuel Layer.choice tokens with
      | some (e, .sign ")" :: rest) => some (e, rest)
      | some (e, .sign "," :: rest) =>
        (items? fuel ")" false rest).map fun (items, rest) => (.list (e :: items), rest)
      | _ => none

/-- Items with commas between them up to a closing sign; the last may have a comma after it. Items may have
names if `naming`. -/
def items? : Nat → String → Bool → List Token → Parsed (List Expr)
  | 0, _, _, _ => none
  | fuel + 1, closing, naming, tokens =>
    match tokens with
    | [] => none
    | .sign s :: rest =>
      if s = closing then some ([], rest)
      else itemsAfter? fuel closing naming (expression? fuel Layer.choice (.sign s :: rest))
    | .name s :: .sign "=" :: rest =>
      if naming then
        itemsAfter? fuel closing naming
          ((expression? fuel Layer.choice rest).map fun (value, rest) => (.named s value, rest))
      else none
    | tokens => itemsAfter? fuel closing naming (expression? fuel Layer.choice tokens)

/-- An item and those after it. -/
def itemsAfter? : Nat → String → Bool → Parsed Expr → Parsed (List Expr)
  | 0, _, _, _ => none
  | fuel + 1, closing, naming, item =>
    match item with
    | some (e, .sign s :: rest) =>
      if s = closing then some ([e], rest)
      else if s = "," then (items? fuel closing naming rest).map fun (others, rest) => (e :: others, rest)
      else none
    | _ => none

/-- An operand with the operators after it that bind in a layer or tighter. -/
def extend? : Nat → Nat → Expr → List Token → Parsed Expr
  | 0, _, _, _ => none
  | fuel + 1, layer, left, tokens =>
    match tokens with
    | .word "if" :: rest =>
      if layer ≤ Layer.choice then
        match expression? fuel Layer.either rest with
        | some (_, .word "else" :: rest) =>
          match expression? fuel Layer.choice rest with
          | some (_, rest) => some (.foreign .unsupported [], rest)
          | none => none
        | _ => none
      else some (left, tokens)
    | .word "or" :: rest =>
      if layer ≤ Layer.either then
        match expression? fuel Layer.both rest with
        | some (right, rest) => extend? fuel layer (.either left right) rest
        | none => none
      else some (left, tokens)
    | .word "and" :: rest =>
      if layer ≤ Layer.both then
        match expression? fuel Layer.negation rest with
        | some (right, rest) => extend? fuel layer (.both left right) rest
        | none => none
      else some (left, tokens)
    | _ =>
      match comparison? tokens with
      | some _ =>
        if layer ≤ Layer.comparison then
          match comparisons? fuel none left tokens with
          | some (compared, rest) => extend? fuel layer compared rest
          | none => none
        else some (left, tokens)
      | none =>
        match tokens with
        | .sign s :: rest =>
          match Fields.get? binarySigns s with
          | some (own, combine) =>
            if layer ≤ own then
              let rightLayer := if own = Layer.power then Layer.sign else own + 1
              match expression? fuel rightLayer rest with
              | some (right, rest) => extend? fuel layer (combine left right) rest
              | none => none
            else some (left, tokens)
          | none => some (left, tokens)
        | _ => some (left, tokens)

/-- Comparisons in a row; each operand but the outer ones takes part in two. -/
def comparisons? : Nat → Option Expr → Expr → List Token → Parsed Expr
  | 0, _, _, _ => none
  | fuel + 1, before, left, tokens =>
    match comparison? tokens with
    | some (combine, rest) =>
      match expression? fuel Layer.exclusive rest with
      | some (right, rest) =>
        let compared := combine left right
        let joined := match before with
          | some earlier => Expr.both earlier compared
          | none => compared
        comparisons? fuel (some joined) right rest
      | none => none
    | none => before.map fun joined => (joined, tokens)

end

/-- The expression that words spell. -/
def Expr.ofTokens? (tokens : List Token) : Option Expr :=
  match expression? (16 * tokens.length + 16) Layer.choice tokens with
  | some (e, []) => some e
  | _ => none

/-! ## 4. Statements -/

/-- Words that begin a statement and need something after them. -/
def statementWords : List String := ["import", "from", "del", "raise", "assert", "global", "nonlocal"]

/-- Words that are a statement by themselves. -/
def loneWords : List String := ["pass", "break", "continue", "return"]

/-- Words that spell a statement and no expression, as far as their beginning says. -/
def isStatement : List Token → Bool
  | [.word s] => loneWords.contains s
  | .word s :: _ :: _ => statementWords.contains s || s == "return"
  | .name _ :: .sign s :: rest => changeSigns.contains s && (Expr.ofTokens? rest).isSome
  | _ => false

end TableSync.Filter
