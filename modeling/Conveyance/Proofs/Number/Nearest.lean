import Conveyance.Number.Decimal
import Mathlib.Algebra.Order.Round
import Mathlib.Data.Rat.Floor
import Mathlib.Tactic.FieldSimp
import Mathlib.Tactic.Linarith

/-!
# Proofs/Number/Nearest — decimals as rational numbers, rounded to the nearest

A decimal stands for a rational number (`Decimal.value`).  `roundAway` is the nearest whole number to
a rational one, **a half going away from zero** (`roundAway_eq_iff`), and the size of a decimal in
units of its last places is that of the number rounded so (`Decimal.natAbs_nearest`).
-/

namespace Conveyance

/-- The nearest whole number, a half going away from zero. -/
def roundAway (x : ℚ) : ℤ := if x < 0 then -round (-x) else round x

theorem round_nonneg {x : ℚ} (hx : 0 ≤ x) : 0 ≤ round x := by
  rw [round_eq]
  exact Int.floor_nonneg.2 (by linarith)

theorem round_eq_iff_of_nonneg {x : ℚ} (hx : 0 ≤ x) {n : ℤ} :
    round x = n ↔ |x - n| < 1 / 2 ∨ |x - n| = 1 / 2 ∧ |x| < |(n : ℚ)| := by
  rw [round_eq, Int.floor_eq_iff, abs_of_nonneg hx]
  constructor
  · rintro ⟨hle, hlt⟩
    rcases eq_or_lt_of_le hle with heq | hle
    · -- a half: the whole number above is farther from zero
      have hn : (0 : ℚ) ≤ n := by linarith
      refine .inr ⟨?_, ?_⟩
      · rw [abs_of_nonpos (by linarith)]
        linarith
      · rw [abs_of_nonneg hn]
        linarith
    · exact .inl (abs_lt.2 ⟨by linarith, by linarith⟩)
  · rintro (h | ⟨hhalf, haway⟩)
    · obtain ⟨hl, hr⟩ := abs_lt.1 h
      exact ⟨by linarith, by linarith⟩
    · rcases abs_eq (by norm_num) |>.1 hhalf with h | h
      · -- a half below: nothing that is farther from zero lies there
        exfalso
        rcases le_or_gt 0 n with hn | hn
        · rw [abs_of_nonneg (by exact_mod_cast hn)] at haway
          linarith
        · have hn : (n : ℚ) ≤ -1 := by exact_mod_cast Int.le_sub_one_of_lt hn
          linarith
      · exact ⟨by linarith, by linarith⟩

/-- **What rounding is**: the whole number that is less than a half away, or that is a half away and
farther from zero. -/
theorem roundAway_eq_iff {x : ℚ} {n : ℤ} :
    roundAway x = n ↔ |x - n| < 1 / 2 ∨ |x - n| = 1 / 2 ∧ |x| < |(n : ℚ)| := by
  rcases lt_or_ge x 0 with hx | hx
  · have hneg := round_eq_iff_of_nonneg (x := -x) (by linarith) (n := -n)
    have hdist : |-x - ((-n : ℤ) : ℚ)| = |x - n| := by
      rw [Int.cast_neg, ← abs_neg]
      congr 1
      ring
    have hcast : |((-n : ℤ) : ℚ)| = |(n : ℚ)| := by rw [Int.cast_neg, abs_neg]
    rw [hdist, abs_neg, hcast] at hneg
    rw [← hneg, roundAway, if_pos hx, neg_eq_iff_eq_neg]
  · rw [roundAway, if_neg (by linarith), round_eq_iff_of_nonneg hx]

theorem roundAway_intCast (n : ℤ) : roundAway n = n :=
  roundAway_eq_iff.2 (.inl (by simp))

/-- The size of a rounded number is its size, rounded. -/
theorem natAbs_roundAway (x : ℚ) : ((roundAway x).natAbs : ℤ) = round |x| := by
  rcases lt_or_ge x 0 with hx | hx
  · rw [roundAway, if_pos hx, Int.natAbs_neg, abs_of_neg hx,
      Int.natAbs_of_nonneg (round_nonneg (by linarith))]
  · rw [roundAway, if_neg (by linarith), abs_of_nonneg hx, Int.natAbs_of_nonneg (round_nonneg hx)]

theorem roundAway_abs (x : ℚ) : roundAway |x| = (roundAway x).natAbs := by
  rw [natAbs_roundAway, roundAway, if_neg (abs_nonneg x).not_gt]

/-- **Rounding keeps the sign**, unless it rounds to zero. -/
theorem roundAway_neg_iff {x : ℚ} : roundAway x < 0 ↔ x < 0 ∧ (roundAway x).natAbs ≠ 0 := by
  rcases lt_or_ge x 0 with hx | hx
  · have hround := round_nonneg (x := -x) (by linarith)
    rw [roundAway, if_pos hx]
    exact ⟨fun h => ⟨hx, by omega⟩, fun h => by omega⟩
  · have hround := round_nonneg hx
    rw [roundAway, if_neg (by linarith)]
    exact ⟨fun h => by omega, fun h => absurd h.1 (by linarith)⟩

/-- **Division with a half going up** is rounding to the nearest. -/
theorem round_natCast_div {n d : ℕ} (hd : 0 < d) : round ((n : ℚ) / d) = divHalfUp n d := by
  have hd' : (d : ℚ) ≠ 0 := by exact_mod_cast hd.ne'
  have hsum : (n : ℚ) / d + 1 / 2 = ((2 * n + d : ℕ) : ℚ) / ((2 * d : ℕ) : ℚ) := by
    push_cast
    field_simp
  rw [round_eq, hsum, Rat.floor_natCast_div_natCast, divHalfUp]
  rfl

/-- Shifting the point keeps the sign. -/
theorem mul_tenPow_neg_iff {R : Type*} [Ring R] [LinearOrder R] [IsStrictOrderedRing R] {x : R}
    (places : ℕ) : x * 10 ^ places < 0 ↔ x < 0 := by
  have hpos : (0 : R) < 10 ^ places := by positivity
  exact ⟨fun h => neg_of_mul_neg_left h hpos.le, fun h => mul_neg_of_neg_of_pos h hpos⟩

namespace Decimal

/-- The number that a decimal stands for. -/
def value (d : Decimal) : ℚ := d.coeff / 10 ^ d.scale

/-- The decimal in units of `10 ^ (-places)`, rounded to the nearest, a half away from zero. -/
def nearest (places : Nat) (d : Decimal) : ℤ := roundAway (d.value * 10 ^ places)

variable {d : Decimal}

theorem abs_value (d : Decimal) : |d.value| = d.coeff.natAbs / 10 ^ d.scale := by
  rw [value, abs_div, abs_of_pos (by positivity : (0 : ℚ) < 10 ^ d.scale), Nat.cast_natAbs,
    Int.cast_abs]

/-- A decimal in units of a scale that is at least its own. -/
theorem value_eq_coeffAt {d : Decimal} {s : Nat} (h : d.scale ≤ s) :
    d.value = d.coeffAt s / 10 ^ s := by
  obtain ⟨k, rfl⟩ := Nat.exists_eq_add_of_le h
  rw [value, coeffAt, Nat.add_sub_cancel_left, tenTo, Nat.pow_eq, pow_add]
  push_cast
  field_simp

theorem value_neg_iff : d.value < 0 ↔ d.coeff < 0 := by
  rw [value, div_lt_iff₀ (by positivity), zero_mul]
  exact Int.cast_lt_zero

/-- **The size of a rounded decimal** is the one that is written. -/
theorem natAbs_nearest (places : Nat) (d : Decimal) :
    (d.nearest places).natAbs = d.unitsAt places := by
  have hround : ((d.nearest places).natAbs : ℤ)
      = round ((d.coeff.natAbs : ℚ) / 10 ^ d.scale * 10 ^ places) := by
    rw [nearest, natAbs_roundAway, abs_mul, abs_value,
      abs_of_pos (by positivity : (0 : ℚ) < 10 ^ places)]
  rw [← Int.natCast_inj, hround, unitsAt]
  split
  · next hle =>
    have hexact : (d.coeff.natAbs : ℚ) / 10 ^ d.scale * 10 ^ places
        = ((d.coeff.natAbs * tenTo (places - d.scale) : ℕ) : ℚ) := by
      obtain ⟨k, rfl⟩ := Nat.exists_eq_add_of_le hle
      rw [Nat.add_sub_cancel_left, tenTo, Nat.pow_eq, pow_add]
      push_cast
      field_simp
    rw [hexact, round_natCast]
  · next hle =>
    have hquotient : (d.coeff.natAbs : ℚ) / 10 ^ d.scale * 10 ^ places
        = (d.coeff.natAbs : ℚ) / (tenTo (d.scale - places) : ℕ) := by
      obtain ⟨k, hk⟩ := Nat.exists_eq_add_of_le (Nat.le_of_not_le hle)
      rw [hk, Nat.add_sub_cancel_left, tenTo, Nat.pow_eq, pow_add]
      push_cast
      field_simp
    rw [hquotient, round_natCast_div (tenTo_pos _)]

/-- The size of a rounded decimal is its size, rounded. -/
theorem natAbs_nearest_eq_roundAway (places : Nat) (d : Decimal) :
    ((d.nearest places).natAbs : ℤ) = roundAway (|d.value| * 10 ^ places) := by
  rw [nearest, ← roundAway_abs, abs_mul, abs_of_pos (by positivity : (0 : ℚ) < 10 ^ places)]

theorem nearest_neg_iff (places : Nat) (d : Decimal) :
    d.nearest places < 0 ↔ d.coeff < 0 ∧ d.unitsAt places ≠ 0 := by
  rw [← natAbs_nearest, nearest, roundAway_neg_iff, mul_tenPow_neg_iff, value_neg_iff]

/-- **A decimal is whole** exactly when it stands for a whole number. -/
theorem isWhole_iff : d.isWhole = true ↔ ∃ n : ℤ, d.value = n := by
  have hvalue : ∀ n : ℤ, d.value = n ↔ d.coeff = 10 ^ d.scale * n := fun n => by
    rw [value, div_eq_iff (by positivity), mul_comm]
    exact_mod_cast Iff.rfl
  have hdvd : (∃ n : ℤ, d.value = n) ↔ ((10 ^ d.scale : ℕ) : ℤ) ∣ d.coeff := by
    rw [exists_congr hvalue, Nat.cast_pow]
    rfl
  rw [hdvd, Int.natCast_dvd, Nat.dvd_iff_mod_eq_zero, isWhole, beq_iff_eq, tenTo, Nat.pow_eq]

/-- A whole decimal is not rounded. -/
theorem nearest_of_value_eq {n : ℤ} (h : d.value = n) (places : Nat) :
    d.nearest places = n * 10 ^ places := by
  have hscaled : d.value * 10 ^ places = ((n * 10 ^ places : ℤ) : ℚ) := by
    rw [h]
    push_cast
    rfl
  rw [nearest, hscaled, roundAway_intCast]

end Decimal

end Conveyance
