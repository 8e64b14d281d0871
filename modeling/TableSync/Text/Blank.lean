/-
  TableSync/Text/Blank.lean
  =========================
  **Blanks and digits of all scripts.**

  `isBlank` is the set of characters stripped from the ends of a name and
  skipped around a number; besides the ASCII ones it holds the separators of
  other scripts and the four information separators.  `digitValue?` reads a
  decimal digit of any script: digits come in runs of ten, so the table lists
  the zeros.
-/

namespace TableSync.Text

/-- Characters stripped from the ends of a text. -/
def isBlank (c : Char) : Bool :=
  let n := c.toNat
  (9 ≤ n && n ≤ 13) || (0x1C ≤ n && n ≤ 0x20) || n == 0x85 || n == 0xA0 || n == 0x1680 ||
  (0x2000 ≤ n && n ≤ 0x200A) || n == 0x2028 || n == 0x2029 || n == 0x202F || n == 0x205F ||
  n == 0x3000

/-- Drop blanks at the start. -/
def stripLeft (cs : List Char) : List Char := cs.dropWhile isBlank

/-- Drop blanks at both ends. -/
def stripChars (cs : List Char) : List Char := (stripLeft (stripLeft cs).reverse).reverse

/-- A text without blanks at its ends. -/
def strip (s : String) : String := String.ofList (stripChars s.toList)

/-- The code points of the zeros of all scripts. -/
def zeros : List Nat :=
  [0x30, 0x660, 0x6F0, 0x7C0, 0x966, 0x9E6, 0xA66, 0xAE6, 0xB66, 0xBE6,
   0xC66, 0xCE6, 0xD66, 0xDE6, 0xE50, 0xED0, 0xF20, 0x1040, 0x1090, 0x17E0,
   0x1810, 0x1946, 0x19D0, 0x1A80, 0x1A90, 0x1B50, 0x1BB0, 0x1C40, 0x1C50, 0xA620,
   0xA8D0, 0xA900, 0xA9D0, 0xA9F0, 0xAA50, 0xABF0, 0xFF10, 0x104A0, 0x10D30, 0x11066,
   0x110F0, 0x11136, 0x111D0, 0x112F0, 0x11450, 0x114D0, 0x11650, 0x116C0, 0x11730, 0x118E0,
   0x11950, 0x11C50, 0x11D50, 0x11DA0, 0x16A60, 0x16AC0, 0x16B50, 0x1D7CE, 0x1D7D8, 0x1D7E2,
   0x1D7EC, 0x1D7F6, 0x1E140, 0x1E2F0, 0x1E950, 0x1FBF0]

/-- The value of a decimal digit of any script. -/
def digitValue? (c : Char) : Option Nat :=
  zeros.findSome? fun first => if first ≤ c.toNat ∧ c.toNat < first + 10 then some (c.toNat - first) else none

/-- Every blank of the ASCII and core classes is a blank here. -/
theorem isBlank_of_isWhitespace {c : Char} (h : c.isWhitespace = true) : isBlank c = true := by
  simp only [Char.isWhitespace, Bool.or_eq_true, decide_eq_true_eq] at h
  rcases h with ((h | h) | h) | h <;> subst h <;> rfl

/-- A digit of the ASCII class is read as what it stands for. -/
theorem digitValue?_of_isDigit {c : Char} (h : c.isDigit = true) : digitValue? c = some (c.toNat - '0'.toNat) := by
  have hrange : 0x30 ≤ c.toNat ∧ c.toNat < 0x30 + 10 := by
    simp only [Char.isDigit, Bool.and_eq_true, decide_eq_true_eq, UInt32.le_iff_toNat_le] at h
    have hzero : ('0'.val.toNat : Nat) = 48 := rfl
    have hnine : ('9'.val.toNat : Nat) = 57 := rfl
    have hval : c.val.toNat = c.toNat := rfl
    omega
  rw [digitValue?, zeros, List.findSome?_cons, if_pos hrange]
  rfl

theorem isBlank_of_isDigit {c : Char} (h : c.isDigit = true) : isBlank c = false := by
  simp only [Char.isDigit, Bool.and_eq_true, decide_eq_true_eq, UInt32.le_iff_toNat_le] at h
  have hzero : ('0'.val.toNat : Nat) = 48 := rfl
  have hnine : ('9'.val.toNat : Nat) = 57 := rfl
  have hval : c.val.toNat = c.toNat := rfl
  simp only [isBlank, Bool.or_eq_false_iff, Bool.and_eq_false_iff, decide_eq_false_iff_not, beq_eq_false_iff_ne]
  omega

theorem stripLeft_of_noBlank {cs : List Char} (h : ∀ c ∈ cs, isBlank c = false) : stripLeft cs = cs := by
  cases cs with
  | nil => rfl
  | cons c rest => rw [stripLeft, List.dropWhile_cons_of_neg (by simp [h c List.mem_cons_self])]

theorem stripChars_of_noBlank {cs : List Char} (h : ∀ c ∈ cs, isBlank c = false) : stripChars cs = cs := by
  rw [stripChars, stripLeft_of_noBlank h, stripLeft_of_noBlank (by simpa using h), List.reverse_reverse]

end TableSync.Text
