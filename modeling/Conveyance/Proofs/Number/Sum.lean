import Conveyance.Number.Decimal
import Mathlib.Algebra.Order.Group.Int
import Mathlib.Algebra.BigOperators.Group.List.Basic
import Mathlib.Tactic.Ring

/-!
# Proofs/Number/Sum — when a sum is exact

A sum of decimals is rounded, or fails, only where it does not fit.  Numbers are compared in units
of a scale that is at least theirs (`Decimal.coeffAt`): **while the sizes of the summands add up to
less than `2 ^ 96` such units, the sum is there and nothing is rounded** (`sum?_exact`).
-/

namespace Conveyance.Decimal

theorem divHalfEven_one (n : Nat) : divHalfEven n 1 = n := by
  simp [divHalfEven, Nat.mod_one]

theorem withSign_natAbs (c : Int) : withSign (c < 0) c.natAbs = c := by
  rw [withSign]
  split
  · next h =>
    have h := of_decide_eq_true h
    omega
  · next h =>
    have h := of_decide_eq_false (Bool.eq_false_iff.2 h)
    omega

/-- A number that fits at its own scale is not rounded. -/
theorem fitBelow?_self {c : Int} {s : Nat} (hc : c.natAbs < twoTo 96) (hs : s ≤ 28) :
    fitBelow? c s s = some ⟨c, s, hc, hs⟩ := by
  have hparts : ofParts? (withSign (c < 0) (divHalfEven c.natAbs (tenTo (s - s)))) s
      = some ⟨c, s, hc, hs⟩ := by
    rw [Nat.sub_self, tenTo_zero, divHalfEven_one, withSign_natAbs, ofParts?, dif_pos ⟨hc, hs⟩]
  cases s with
  | zero => exact hparts
  | succ k => rw [fitBelow?, hparts]

/-- The coefficient at a larger scale has more zeros. -/
theorem coeffAt_mul {d : Decimal} {s t : Nat} (hd : d.scale ≤ s) (hs : s ≤ t) :
    d.coeffAt s * tenTo (t - s) = d.coeffAt t := by
  have hsplit : t - d.scale = (s - d.scale) + (t - s) := by omega
  rw [coeffAt, coeffAt, hsplit, mul_assoc, tenTo, tenTo, tenTo, Nat.pow_eq, Nat.pow_eq, Nat.pow_eq,
    pow_add]
  push_cast
  ring

/-- **Two numbers whose sum fits are added exactly.** -/
theorem add?_exact {a b : Decimal} {s : Nat} (ha : a.scale ≤ s) (hb : b.scale ≤ s)
    (hfit : (a.coeffAt s + b.coeffAt s).natAbs < twoTo 96) :
    ∃ d, add? a b = some d ∧ d.scale ≤ s ∧ d.coeffAt s = a.coeffAt s + b.coeffAt s := by
  rw [add?]
  split
  · next hzero =>
    have hcoeff : a.coeff = 0 := beq_iff_eq.1 hzero
    exact ⟨b, rfl, hb, by simp [coeffAt, hcoeff]⟩
  · split
    · next hzero =>
      have hcoeff : b.coeff = 0 := beq_iff_eq.1 hzero
      exact ⟨a, rfl, ha, by simp [coeffAt, hcoeff]⟩
    · have hmax : max a.scale b.scale ≤ s := max_le ha hb
      have hsum : (a.coeffAt (max a.scale b.scale) + b.coeffAt (max a.scale b.scale))
          * tenTo (s - max a.scale b.scale) = a.coeffAt s + b.coeffAt s := by
        rw [add_mul, coeffAt_mul (le_max_left _ _) hmax, coeffAt_mul (le_max_right _ _) hmax]
      generalize hc : a.coeffAt (max a.scale b.scale) + b.coeffAt (max a.scale b.scale) = c at hsum
      have hlt : c.natAbs < twoTo 96 := by
        have hle : c.natAbs ≤ (c * tenTo (s - max a.scale b.scale)).natAbs := by
          rw [Int.natAbs_mul]
          exact Nat.le_mul_of_pos_right _ (tenTo_pos _)
        rw [hsum] at hle
        exact lt_of_le_of_lt hle hfit
      refine ⟨⟨c, max a.scale b.scale, hlt, max_le a.scale_le b.scale_le⟩, ?_, hmax, hsum⟩
      dsimp only
      rw [hc, fitBelow?_self hlt]

theorem sumFrom?_exact {ds : List Decimal} {start : Decimal} {s : Nat}
    (hds : ∀ d ∈ ds, d.scale ≤ s) (hstart : start.scale ≤ s)
    (hfit : (start.coeffAt s).natAbs + (ds.map fun d => (d.coeffAt s).natAbs).sum < twoTo 96) :
    ∃ total, sumFrom? start ds = some total ∧ total.scale ≤ s ∧
      total.coeffAt s = start.coeffAt s + (ds.map (coeffAt s)).sum := by
  induction ds generalizing start with
  | nil => exact ⟨start, rfl, hstart, by simp⟩
  | cons d ds ih =>
    obtain ⟨hd, hds⟩ := List.forall_mem_cons.1 hds
    rw [List.map_cons, List.sum_cons] at hfit
    have hle := Int.natAbs_add_le (start.coeffAt s) (d.coeffAt s)
    obtain ⟨next, hnext, hscale, hcoeff⟩ := add?_exact hstart hd (by omega)
    obtain ⟨total, htotal, htotalScale, htotalCoeff⟩ := ih hds hscale (by rw [hcoeff]; omega)
    refine ⟨total, ?_, htotalScale, ?_⟩
    · rw [sumFrom?, List.foldlM_cons, hnext]
      exact htotal
    · rw [htotalCoeff, hcoeff, List.map_cons, List.sum_cons, add_assoc]

/-- **A sum that fits is exact.** -/
theorem sum?_exact {ds : List Decimal} {s : Nat} (hds : ∀ d ∈ ds, d.scale ≤ s)
    (hfit : (ds.map fun d => (d.coeffAt s).natAbs).sum < twoTo 96) :
    ∃ total, sum? ds = some total ∧ total.scale ≤ s ∧
      total.coeffAt s = (ds.map (coeffAt s)).sum := by
  have hzero : zero.coeffAt s = 0 := by simp [coeffAt, zero]
  obtain ⟨total, htotal, hscale, hcoeff⟩ :=
    sumFrom?_exact hds (Nat.zero_le s : zero.scale ≤ s) (by rw [hzero]; simpa using hfit)
  exact ⟨total, htotal, hscale, by rw [hcoeff, hzero, zero_add]⟩

end Conveyance.Decimal
