/-
  TableSync/Text/Glob.lean
  ========================
  **Patterns of names** — wildcards in one part of a path and across parts.

  In a part `*` stands for any characters, `?` for one, and brackets for one of
  a set, which an exclamation mark turns into its complement.  A part `**`
  stands for any number of directories.
-/
import TableSync.Text.Split

namespace TableSync.Text.Glob

/-- One place of a pattern. -/
inductive Item where
  | any
  | one
  | exactly (c : Char)
  | among (negated : Bool) (ranges : List (Char × Char))
deriving DecidableEq, Repr

/-- Single characters and ranges of a set. -/
def ranges : List Char → List (Char × Char)
  | low :: '-' :: high :: rest => (low, high) :: ranges rest
  | c :: rest => (c, c) :: ranges rest
  | [] => []

/-- The characters of a set up to its closing bracket, which is a character itself at the very start. -/
def setBody (cs : List Char) : Option (List Char × List Char) :=
  let (first, rest) := match cs with
    | ']' :: rest => ([']'], rest)
    | rest => ([], rest)
  let (body, rest) := rest.span (· != ']')
  match rest with
  | ']' :: rest => some (first ++ body, rest)
  | _ => none

/-- The set at the start of a pattern after its opening bracket, and what follows. -/
def set? (cs : List Char) : Option (Item × List Char) :=
  match cs with
  | '!' :: rest => (setBody rest).map fun (body, rest) => (.among true (ranges body), rest)
  | rest => (setBody rest).map fun (body, rest) => (.among false (ranges body), rest)

/-- The places of a pattern; `fuel` is its length. -/
def items : Nat → List Char → List Item
  | 0, _ | _, [] => []
  | fuel + 1, '*' :: rest => .any :: items fuel rest
  | fuel + 1, '?' :: rest => .one :: items fuel rest
  | fuel + 1, '[' :: rest =>
    match set? rest with
    | some (item, rest) => item :: items fuel rest
    | none => .exactly '[' :: items fuel rest
  | fuel + 1, c :: rest => .exactly c :: items fuel rest

/-- A character at a place that stands for one. -/
def Item.accepts : Item → Char → Bool
  | any, _ | one, _ => true
  | exactly c, d => c == d
  | among negated ranges, c => (ranges.any fun range => range.1 ≤ c && c ≤ range.2) != negated

/-- A name fits the places. -/
def fits : List Item → List Char → Bool
  | [], name => name.isEmpty
  | .any :: rest, [] => fits rest []
  | .any :: rest, c :: name => fits rest (c :: name) || fits (.any :: rest) name
  | _ :: _, [] => false
  | item :: rest, c :: name => item.accepts c && fits rest name
termination_by pattern name => pattern.length + name.length

/-- A part of a path fits a part of a pattern. -/
def partFits (pattern part : String) : Bool := fits (items (pattern.length + 1) pattern.toList) part.toList

/-- The parts of a path fit the parts of a pattern. -/
def partsFit : List String → List String → Bool
  | [], parts => parts.isEmpty
  | pattern :: patterns, parts =>
    if pattern = "**" then
      partsFit patterns parts || (match parts with
        | [] => false
        | _ :: rest => partsFit (pattern :: patterns) rest)
    else match parts with
      | [] => false
      | part :: rest => partFits pattern part && partsFit patterns rest
termination_by patterns parts => patterns.length + parts.length

/-- The parts of a path; empty ones and those that stand for the same place are dropped. -/
def parts (path : String) : List String := (split '/' path).filter fun part => !part.isEmpty && part != "."

/-- A path fits a pattern. -/
def pathFits (pattern path : String) : Bool := partsFit (parts pattern) (parts path)

/-- A path without needless parts. -/
def tidy (path : String) : String :=
  let body := "/".intercalate (parts path)
  if path.startsWith "/" then "/" ++ body else if body.isEmpty then "." else body

end TableSync.Text.Glob
