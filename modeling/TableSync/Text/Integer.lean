/-
  TableSync/Text/Integer.lean
  ===========================
  **Whole numbers written in text.**

  A whole number is digits with an optional sign in front, blanks around it,
  and single underscores allowed between two digits.  `Integer.read?` accepts
  the digits of every script, as the checkpoint of a file source does.
-/
import TableSync.Text.Blank

namespace TableSync.Text.Integer

/-- Read on from `acc`; `afterDigit` says that the last character was a digit, so that an underscore or
the end may follow. -/
def readDigits (digit? : Char → Option Nat) : Bool → Nat → List Char → Option Nat
  | afterDigit, acc, [] => if afterDigit then some acc else none
  | afterDigit, acc, c :: rest =>
    match digit? c with
    | some d => readDigits digit? true (10 * acc + d) rest
    | none => if c = '_' ∧ afterDigit then readDigits digit? false acc rest else none

/-- Digits with an optional sign. -/
def readSigned (digit? : Char → Option Nat) : List Char → Option Int
  | '-' :: rest => (readDigits digit? false 0 rest).map fun n => -(n : Int)
  | '+' :: rest => (readDigits digit? false 0 rest).map fun n => (n : Int)
  | cs => (readDigits digit? false 0 cs).map fun n => (n : Int)

/-- A whole number with blanks around it. -/
def read? (s : String) : Option Int := readSigned digitValue? (stripChars s.toList)

/-- The most digits that a whole number in text may have. -/
def digitLimit : Nat := 4300

/-- A whole number is written with no more digits than may stand in text. -/
def isSpellable (n : Int) : Bool := (Nat.toDigits 10 n.natAbs).length ≤ digitLimit

/-- A whole number with at most `most` digits, and blanks around it. -/
def readWithin? (most : Nat) (s : String) : Option Int :=
  if s.toList.countP (fun c => (digitValue? c).isSome) ≤ most then read? s else none

/-- Reading digits is reading their number. -/
theorem readDigits_of_isDigit {cs : List Char} (h : ∀ c ∈ cs, c.isDigit = true) (afterDigit : Bool) (acc : Nat)
    (hsome : afterDigit = true ∨ cs ≠ []) :
    readDigits digitValue? afterDigit acc cs = some (Nat.ofDigitChars 10 cs acc) := by
  induction cs generalizing afterDigit acc with
  | nil =>
    have hafter : afterDigit = true := hsome.resolve_right (fun hne => hne rfl)
    rw [readDigits, if_pos hafter, Nat.ofDigitChars_nil]
  | cons c rest ih =>
    rw [readDigits, digitValue?_of_isDigit (h c List.mem_cons_self), Nat.ofDigitChars_cons]
    exact ih (fun d hd => h d (List.mem_cons_of_mem _ hd)) true _ (.inl rfl)

/-- A whole number that is not negative is read back from its text. -/
theorem read?_toString (n : Nat) : read? (toString (n : Int)) = some (n : Int) := by
  have hdigits : ∀ c ∈ Nat.toDigits 10 n, c.isDigit = true := fun c hc =>
    Nat.isDigit_of_mem_toDigits (by decide) (by decide) hc
  have htext : (toString (n : Int)).toList = Nat.toDigits 10 n := Nat.toList_repr
  rw [read?, htext, stripChars_of_noBlank fun c hc => isBlank_of_isDigit (hdigits c hc)]
  have hread := readDigits_of_isDigit hdigits false 0 (.inr Nat.toDigits_ne_nil)
  rw [Nat.ofDigitChars_ten_toDigits] at hread
  unfold readSigned
  split
  next rest hcs => exact absurd (hdigits '-' (by simp [hcs])) (by decide)
  next rest hcs => exact absurd (hdigits '+' (by simp [hcs])) (by decide)
  next => rw [hread]; rfl

end TableSync.Text.Integer
