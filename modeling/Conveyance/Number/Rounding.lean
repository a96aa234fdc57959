import Conveyance.Number.Power

/-!
# Number/Rounding — quotients rounded to the nearest whole number

`divHalfUp` and `divHalfEven` divide natural numbers and differ only where the remainder is exactly
half of the divisor: the first goes up, the second to the even neighbour.  `trimTens` takes factors
of ten out of a number, as many as are asked for and there.
-/

namespace Conveyance

/-- The nearest whole number to `n / d`, a half going up. -/
def divHalfUp (n d : Nat) : Nat := (2 * n + d) / (2 * d)

/-- The nearest whole number to `n / d`, **a half going to the even neighbour**. -/
def divHalfEven (n d : Nat) : Nat :=
  let q := n / d
  let r := n % d
  if 2 * r < d then q else if d < 2 * r then q + 1 else q + q % 2

/-- Take at most `k` factors of ten out of `n`: what is left, and how many were not found. -/
def trimTens (n : Nat) : Nat → Nat × Nat
  | 0 => (n, 0)
  | k + 1 => if n % 10 = 0 then trimTens (n / 10) k else (n, k + 1)

theorem trimTens_fst_le : ∀ k n : Nat, (trimTens n k).1 ≤ n
  | 0, n => Nat.le_refl n
  | k + 1, n => by
      rw [trimTens]
      split
      · exact Nat.le_trans (trimTens_fst_le k (n / 10)) (Nat.div_le_self n 10)
      · exact Nat.le_refl n

theorem trimTens_snd_le : ∀ k n : Nat, (trimTens n k).2 ≤ k
  | 0, _ => Nat.le_refl 0
  | k + 1, n => by
      rw [trimTens]
      split
      · exact Nat.le_succ_of_le (trimTens_snd_le k (n / 10))
      · exact Nat.le_refl _

/-- **Taking tens out keeps the number**: they can be multiplied in again. -/
theorem trimTens_mul_pow : ∀ k n : Nat, (trimTens n k).1 * tenTo (k - (trimTens n k).2) = n
  | 0, n => Nat.mul_one n
  | k + 1, n => by
      rw [trimTens]
      split
      · next h =>
          have hle := trimTens_snd_le k (n / 10)
          rw [show k + 1 - (trimTens (n / 10) k).2 = (k - (trimTens (n / 10) k).2) + 1 by omega,
            tenTo_succ, ← Nat.mul_assoc, trimTens_mul_pow k (n / 10)]
          omega
      · simp

end Conveyance
