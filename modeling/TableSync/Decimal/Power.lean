/-
  TableSync/Decimal/Power.lean
  ============================
  **Powers of two and of ten** — the grids on which doubles and decimals lie.
-/

namespace TableSync

/-- Two to a power. -/
def twoTo (k : Nat) : Nat := Nat.pow 2 k

/-- Ten to a power. -/
def tenTo (k : Nat) : Nat := Nat.pow 10 k

/-- A power of two is above zero. -/
theorem twoTo_pos (k : Nat) : 0 < twoTo k := Nat.two_pow_pos k

/-- A power of ten is above zero. -/
theorem tenTo_pos (k : Nat) : 0 < tenTo k := Nat.pow_pos (by decide)

end TableSync
