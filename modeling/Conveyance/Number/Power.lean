/-!
# Number/Power — powers of two and of ten

Sizes in bits are powers of two and decimal places are powers of ten.  Both are named here, so that a
bound reads the same wherever it stands; **each power is the one before it times its base**.
-/

namespace Conveyance

/-- A power of two. -/
abbrev twoTo (n : Nat) : Nat := Nat.pow 2 n

/-- A power of ten. -/
abbrev tenTo (n : Nat) : Nat := Nat.pow 10 n

theorem tenTo_zero : tenTo 0 = 1 := rfl

theorem tenTo_succ (n : Nat) : tenTo (n + 1) = tenTo n * 10 := rfl

theorem tenTo_pos (n : Nat) : 0 < tenTo n := by
  induction n with
  | zero => exact Nat.one_pos
  | succ n ih => exact Nat.mul_pos ih (by decide)

end Conveyance
