import Conveyance.Proofs.Number.Nearest
import Mathlib.Data.List.Induction

/-!
# Proofs/Number/Range — when a sum leaves the range of decimals

A sum is rounded as far as it has to be, down to its whole part, so it fails only where **the exact
sum is at least `2 ^ 96 - 1 / 2` in size** (`Decimal.add?_eq_none_iff`): one half below the first
coefficient that cannot be written, because a half goes to the even neighbour.  A sum of many fails
exactly when a running sum does, taken from left to right (`Decimal.sum?_eq_none_iff`).
-/

namespace Conveyance

/-- **Rounding reaches an even number** from a half below it on. -/
theorem le_divHalfEven_iff {m n d : Nat} (hd : 0 < d) (hm : m % 2 = 0) :
    m ≤ divHalfEven n d ↔ 2 * m * d ≤ 2 * n + d := by
  have hn : d * (n / d) + n % d = n := Nat.div_add_mod n d
  have hr : n % d < d := Nat.mod_lt n hd
  simp only [divHalfEven]
  generalize n / d = q at hn ⊢
  generalize n % d = r at hn hr ⊢
  subst hn
  rcases lt_trichotomy (q + 1) m with hlt | rfl | hlt
  · -- the quotient is too small, however the remainder is rounded
    have hmul : (q + 2) * d ≤ m * d := Nat.mul_le_mul_right d hlt
    have hfar : 2 * (d * q + r) + d < 2 * m * d := by
      rw [mul_assoc]
      linarith [mul_comm d q, hmul, hr]
    have hsmall : ¬ m ≤ if 2 * r < d then q else if d < 2 * r then q + 1 else q + q % 2 := by
      split_ifs <;> omega
    exact iff_of_false hsmall hfar.not_ge
  · have hhalf : 2 * (q + 1) * d ≤ 2 * (d * q + r) + d ↔ d ≤ 2 * r := by
      have hexpand : 2 * (q + 1) * d = 2 * (d * q) + 2 * d := by ring
      omega
    rw [hhalf]
    split_ifs <;> omega
  · have hmul : m * d ≤ q * d := Nat.mul_le_mul_right d (by omega)
    have hnear : 2 * m * d ≤ 2 * (d * q + r) + d := by
      rw [mul_assoc]
      linarith [mul_comm d q, hmul]
    have hlarge : m ≤ if 2 * r < d then q else if d < 2 * r then q + 1 else q + q % 2 := by
      split_ifs <;> omega
    exact iff_of_true hlarge hnear

namespace Decimal

/-- A number that does not fit in whole units fits nowhere. -/
theorem fitBelow?_eq_none_iff {c : Int} {s k : Nat} (hk : k ≤ s) (hs : s ≤ 28) :
    fitBelow? c s k = none ↔ twoTo 96 ≤ divHalfEven c.natAbs (tenTo s) := by
  have hparts : ∀ n j : Nat, j ≤ 28 →
      (ofParts? (withSign (c < 0) n) j = none ↔ twoTo 96 ≤ n) := by
    intro n j hj
    simp [ofParts?, natAbs_withSign, hj]
  induction k with
  | zero => exact hparts _ 0 (Nat.zero_le 28)
  | succ k ih =>
    rw [fitBelow?]
    split
    · next d hd =>
      refine iff_of_false (Option.some_ne_none d) fun hlarge => ?_
      -- what is too large in whole units is too large in smaller ones
      have heven : twoTo 96 % 2 = 0 := by decide
      rw [le_divHalfEven_iff (tenTo_pos s) heven] at hlarge
      have hten : tenTo (s - (k + 1)) ≤ tenTo s := by
        rw [tenTo, tenTo, Nat.pow_eq, Nat.pow_eq]
        exact Nat.pow_le_pow_right (by decide) (Nat.sub_le s (k + 1))
      have htwo : 1 ≤ 2 * twoTo 96 := by decide
      have hnone := (hparts (divHalfEven c.natAbs (tenTo (s - (k + 1)))) (k + 1) (by omega)).2
        ((le_divHalfEven_iff (tenTo_pos _) heven).2 (by nlinarith))
      rw [hnone] at hd
      cases hd
    · exact ih (by omega)

/-- Every number is below the range of what cannot be written. -/
theorem abs_value_lt (d : Decimal) : |d.value| < 2 ^ 96 - 1 / 2 := by
  have hcoeff : (d.coeff.natAbs : ℚ) ≤ 2 ^ 96 - 1 := by
    have hlt : d.coeff.natAbs < 2 ^ 96 := d.coeff_lt
    have hle : ((d.coeff.natAbs + 1 : ℕ) : ℚ) ≤ ((2 ^ 96 : ℕ) : ℚ) := by exact_mod_cast hlt
    push_cast at hle
    linarith
  have hscale : (1 : ℚ) ≤ 10 ^ d.scale := one_le_pow₀ (by norm_num)
  rw [abs_value]
  calc (d.coeff.natAbs : ℚ) / 10 ^ d.scale
      ≤ d.coeff.natAbs := div_le_self (Nat.cast_nonneg _) hscale
    _ < 2 ^ 96 - 1 / 2 := by linarith

theorem value_of_isZero {d : Decimal} (h : d.isZero = true) : d.value = 0 := by
  have hcoeff : d.coeff = 0 := beq_iff_eq.1 h
  rw [value, hcoeff, Int.cast_zero, zero_div]

theorem add_value_eq {a b : Decimal} {s : Nat} (ha : a.scale ≤ s) (hb : b.scale ≤ s) :
    a.value + b.value = ((a.coeffAt s + b.coeffAt s : ℤ) : ℚ) / 10 ^ s := by
  rw [value_eq_coeffAt ha, value_eq_coeffAt hb, ← add_div, Int.cast_add]

/-- The whole part of `c / 10 ^ s` cannot be written just when it is too large. -/
theorem twoTo_le_divHalfEven_iff (c : ℤ) (s : Nat) :
    twoTo 96 ≤ divHalfEven c.natAbs (tenTo s) ↔ 2 ^ 96 - 1 / 2 ≤ |(c : ℚ) / 10 ^ s| := by
  have hten : (0 : ℚ) < 10 ^ s := by positivity
  rw [le_divHalfEven_iff (tenTo_pos s) (by decide), abs_div, abs_of_pos hten, le_div_iff₀ hten,
    ← Int.cast_abs, ← Nat.cast_natAbs, tenTo, twoTo, Nat.pow_eq, Nat.pow_eq,
    ← Nat.cast_le (α := ℚ)]
  push_cast
  constructor <;> intro h <;> linarith

/-- **Two numbers have no sum** exactly when it would be rounded past the largest coefficient. -/
theorem add?_eq_none_iff {a b : Decimal} :
    add? a b = none ↔ 2 ^ 96 - 1 / 2 ≤ |a.value + b.value| := by
  rw [add?]
  split
  · next ha =>
    rw [value_of_isZero ha, zero_add]
    exact iff_of_false (Option.some_ne_none b) b.abs_value_lt.not_ge
  · split
    · next hb =>
      rw [value_of_isZero hb, add_zero]
      exact iff_of_false (Option.some_ne_none a) a.abs_value_lt.not_ge
    · have hs : max a.scale b.scale ≤ 28 := max_le a.scale_le b.scale_le
      dsimp only
      rw [fitBelow?_eq_none_iff le_rfl hs, twoTo_le_divHalfEven_iff,
        ← add_value_eq (le_max_left _ _) (le_max_right _ _)]

/-- **A running sum leaves the range**: some number, added to the sum of those before it, makes one
that cannot be written. -/
def LeavesRange (ds : List Decimal) : Prop :=
  ∃ before d after s, ds = before ++ d :: after ∧ sum? before = some s ∧
    2 ^ 96 - 1 / 2 ≤ |s.value + d.value|

theorem sum?_concat (ds : List Decimal) (d : Decimal) :
    sum? (ds ++ [d]) = (sum? ds).bind (add? · d) := by
  rw [sum?, sumFrom?, List.foldlM_append]
  simp [sum?, sumFrom?]

/-- **A sum is there unless a running sum leaves the range.** -/
theorem sum?_eq_none_iff {ds : List Decimal} : sum? ds = none ↔ LeavesRange ds := by
  induction ds using List.reverseRecOn with
  | nil => exact iff_of_false (Option.some_ne_none _) (by simp [LeavesRange])
  | append_singleton ds d ih =>
    rw [sum?_concat, Option.bind_eq_none_iff]
    constructor
    · intro h
      rcases hsum : sum? ds with _ | s
      · obtain ⟨before, e, after, s, rfl, hbefore, hlarge⟩ := ih.1 hsum
        exact ⟨before, e, after ++ [d], s, by simp, hbefore, hlarge⟩
      · exact ⟨ds, d, [], s, rfl, hsum, add?_eq_none_iff.1 (h s hsum)⟩
    · rintro ⟨before, e, after, s, hds, hbefore, hlarge⟩ t ht
      rcases List.eq_nil_or_concat after with rfl | ⟨late, last, rfl⟩
      · obtain ⟨rfl, hd⟩ := List.append_inj' hds rfl
        obtain rfl := (List.cons.inj hd).1
        obtain rfl := Option.some.inj (hbefore.symm.trans ht)
        exact add?_eq_none_iff.2 hlarge
      · -- the sum was out of range before the last number
        rw [List.concat_eq_append, ← List.cons_append, ← List.append_assoc] at hds
        obtain ⟨rfl, _⟩ := List.append_inj' hds rfl
        rw [ih.2 ⟨before, e, late, s, rfl, hbefore, hlarge⟩] at ht
        cases ht

end Decimal

end Conveyance
