/-
  TableSync/Text/Split.lean
  =========================
  **Splitting at a character** — field paths and comma separated settings.

  `split` cuts at every separator and keeps empty parts, so that a text without
  a separator is its own only part; `splitNonBlank` is the reading of a comma
  separated setting, where blanks around a part and empty parts count for
  nothing.
-/
import TableSync.Text.Blank

namespace TableSync.Text

/-- The parts between separators. -/
def splitChars (separator : Char) : List Char → List (List Char)
  | [] => [[]]
  | c :: rest =>
    if c = separator then [] :: splitChars separator rest
    else match splitChars separator rest with
      | [] => [[c]]
      | part :: parts => (c :: part) :: parts

/-- The parts of a text between separators. -/
def split (separator : Char) (s : String) : List String :=
  (splitChars separator s.toList).map String.ofList

/-- A character that ends a line. -/
def isLineEnd (c : Char) : Bool :=
  (0x0a ≤ c.toNat && c.toNat ≤ 0x0d) || (0x1c ≤ c.toNat && c.toNat ≤ 0x1e) || c.toNat == 0x85 ||
  c.toNat == 0x2028 || c.toNat == 0x2029

/-- The lines of a text; a line may be empty. -/
def lines (s : String) : List String :=
  split '\n' (String.ofList (s.toList.map fun c => if isLineEnd c then '\n' else c))

/-- The parts of a text without blanks at their ends; empty parts are dropped. -/
def splitNonBlank (separator : Char) (s : String) : List String :=
  ((split separator s).map strip).filter fun part => !part.isEmpty

theorem splitChars_ne_nil (separator : Char) (cs : List Char) : splitChars separator cs ≠ [] := by
  cases cs with
  | nil => simp [splitChars]
  | cons c rest =>
    by_cases h : c = separator
    · simp [splitChars, h]
    · simp only [splitChars, h, if_false]
      split <;> simp

/-- A text without the separator is its own only part. -/
theorem splitChars_of_not_mem {separator : Char} {cs : List Char} (h : separator ∉ cs) :
    splitChars separator cs = [cs] := by
  induction cs with
  | nil => rfl
  | cons c rest ih =>
    simp only [List.mem_cons, not_or] at h
    simp [splitChars, Ne.symm h.1, ih h.2]

end TableSync.Text
