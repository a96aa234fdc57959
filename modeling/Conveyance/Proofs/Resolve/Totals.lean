import Conveyance.Proofs.Money
import Conveyance.Proofs.Resolve.Readings
import Mathlib.Algebra.Order.BigOperators.Group.List

/-!
# Proofs/Resolve/Totals — totals of stored amounts

Amounts are stored with two places and fewer than fifteen digits before the point
(`Decimal.IsStored`), some with a smaller scale.  A million millions of them stay below `2 ^ 96`
hundredths, so **the total of a stored collection is there and exact after every entry**, whatever
the order is, and a template prints it to the last hundredth (`totalsExactly`).
-/

namespace Conveyance

open ListingEntry (braced)

namespace Decimal

theorem sum_value_eq {ds : List Decimal} {s : Nat} (h : ∀ d ∈ ds, d.scale ≤ s) :
    (ds.map value).sum = (((ds.map (coeffAt s)).sum : ℤ) : ℚ) / 10 ^ s := by
  induction ds with
  | nil => simp
  | cons d ds ih =>
    obtain ⟨hd, hds⟩ := List.forall_mem_cons.1 h
    rw [List.map_cons, List.sum_cons, ih hds, value_eq_coeffAt hd, ← add_div, List.map_cons,
      List.sum_cons, Int.cast_add]

/-- **An amount as it is stored**: at most two places, and a size below a hundred million millions.
-/
structure IsStored (d : Decimal) : Prop where
  scale_le : d.scale ≤ 2
  abs_lt : |d.value| < 10 ^ 14

/-- The size of a stored amount in hundredths. -/
theorem IsStored.natAbs_coeffAt_le {d : Decimal} (h : d.IsStored) :
    (d.coeffAt 2).natAbs ≤ 10 ^ 16 := by
  have hsize : ((d.coeffAt 2).natAbs : ℚ) = |d.value| * 100 := by
    rw [value_eq_coeffAt h.scale_le, abs_div, Nat.cast_natAbs, Int.cast_abs]
    norm_num
  have hlt : ((d.coeffAt 2).natAbs : ℚ) < 10 ^ 16 := by
    have := h.abs_lt
    rw [hsize]
    linarith
  exact_mod_cast hlt.le

/-- **The sum of stored amounts** is exact, as long as there are not more than a million millions. -/
theorem sum?_stored {ds : List Decimal} (hds : ∀ d ∈ ds, d.IsStored) (hlen : ds.length ≤ 10 ^ 12) :
    ∃ total, sum? ds = some total ∧ total.scale ≤ 2 ∧ total.value = (ds.map value).sum := by
  have hscale : ∀ d ∈ ds, d.scale ≤ 2 := fun d hd => (hds d hd).scale_le
  have hfit : (ds.map fun d => (d.coeffAt 2).natAbs).sum < twoTo 96 := by
    have hsum := List.sum_le_card_nsmul (ds.map fun d => (d.coeffAt 2).natAbs) (10 ^ 16)
      (List.forall_mem_map.2 fun d hd => (hds d hd).natAbs_coeffAt_le)
    rw [List.length_map, nsmul_eq_mul, Nat.cast_id] at hsum
    calc (ds.map fun d => (d.coeffAt 2).natAbs).sum
        ≤ ds.length * 10 ^ 16 := hsum
      _ ≤ 10 ^ 12 * 10 ^ 16 := Nat.mul_le_mul_right _ hlen
      _ < twoTo 96 := by decide
  obtain ⟨total, htotal, htotalScale, hcoeff⟩ := sum?_exact hscale hfit
  exact ⟨total, htotal, htotalScale, by
    rw [value_eq_coeffAt htotalScale, hcoeff, sum_value_eq hscale]⟩

/-- A number of at most two places is its own nearest hundredth. -/
theorem value_eq_nearest {d : Decimal} (h : d.scale ≤ 2) : d.value = d.nearest 2 / 100 := by
  have hunits : d.value * 10 ^ 2 = d.coeffAt 2 := by
    rw [value_eq_coeffAt h]
    norm_num
  rw [nearest, hunits, roundAway_intCast, ← hunits]
  norm_num

end Decimal

namespace Collection

variable (f : Format) (ctx : Context) (c : Collection)

/-- **A collection as it is stored**: the amounts that are there are stored ones, and there are not
more than a million millions of entries. -/
structure IsStored : Prop where
  amounts : ∀ d ∈ (c.entries ctx).filterMap c.amount?, d.IsStored
  length_le : (c.entries ctx).length ≤ 10 ^ 12

/-- The sum of the amounts of entries as a number; **an absent amount counts as zero**. -/
def sumOf (es : List c.Entry) : ℚ := (es.map fun e => ((c.amount? e).map Decimal.value).getD 0).sum

/-- The sum of a collection as a number. -/
def exactTotal : ℚ := c.sumOf (c.entries ctx)

/-- The placeholder for the total of a collection. -/
def totalPlaceholder : Text := braced ("TOTAL_".toList ++ c.plural ++ "_AMOUNT".toList)

/-- **The totals of a collection are exact.** -/
structure TotalsExactly : Prop where
  /-- After every entry the sum is there, and it is the sum of the entries so far. -/
  running : ∀ n, ∃ sum, Decimal.sum? (((c.entries ctx).take n).filterMap c.amount?) = some sum ∧
    sum.value = c.sumOf ((c.entries ctx).take n)
  /-- The total is there, and it is the sum of all entries. -/
  total : ∃ sum, c.total? ctx = some sum ∧ sum.value = c.exactTotal ctx
  /-- The same entries in another order have the same total, and it is printed alike. -/
  perm : ∀ ctx', (c.entries ctx').Perm (c.entries ctx) →
    (∃ sum, c.total? ctx' = some sum ∧ sum.value = c.exactTotal ctx) ∧
      render? f ctx' c.totalPlaceholder = render? f ctx c.totalPlaceholder
  /-- The totals of two parts add up to the total of the whole. -/
  append : ∀ front back, c.entries ctx = c.entries front ++ c.entries back →
    ∃ sum first second, c.total? ctx = some sum ∧ c.total? front = some first ∧
      c.total? back = some second ∧ sum.value = first.value + second.value
  /-- The total is printed with two places, and what is printed is the sum itself: the minus sign
  stands there exactly when it is below zero, and the digits are its size. -/
  printed : ∃ whole places : Text,
    render? f ctx c.totalPlaceholder
        = some ((if c.exactTotal ctx < 0 then ['-'] else []) ++ f.symbol ++ whole ++ '.' :: places) ∧
      whole.withoutCommas.IsNumeral ∧ places.length = 2 ∧ Text.isDigits places = true ∧
      (Text.digitsValue whole.withoutCommas : ℚ) + Text.digitsValue places / 100
        = |c.exactTotal ctx|

variable {f ctx c}

/-- Absent amounts add nothing. -/
theorem sumOf_eq (es : List c.Entry) :
    c.sumOf es = ((es.filterMap c.amount?).map Decimal.value).sum := by
  induction es with
  | nil => rfl
  | cons e es ih =>
    rw [sumOf, List.map_cons, List.sum_cons, ← sumOf, ih]
    cases h : c.amount? e with
    | none => rw [List.filterMap_cons_none h, Option.map_none, Option.getD_none, zero_add]
    | some d =>
      rw [List.filterMap_cons_some h, List.map_cons, List.sum_cons, Option.map_some,
        Option.getD_some]

theorem IsStored.of_subset {ctx' : Context} (h : c.IsStored ctx)
    (hsub : c.entries ctx' ⊆ c.entries ctx)
    (hlen : (c.entries ctx').length ≤ (c.entries ctx).length) : c.IsStored ctx' where
  amounts d hd := h.amounts d (List.filterMap_subset _ hsub hd)
  length_le := hlen.trans h.length_le

/-- **After any entries of a stored collection** the sum is there and exact. -/
theorem IsStored.sum?_take (h : c.IsStored ctx) (n : Nat) :
    ∃ sum, Decimal.sum? (((c.entries ctx).take n).filterMap c.amount?) = some sum ∧
      sum.scale ≤ 2 ∧ sum.value = c.sumOf ((c.entries ctx).take n) := by
  rw [sumOf_eq]
  refine Decimal.sum?_stored (fun d hd => ?_) ?_
  · exact h.amounts d (List.filterMap_subset _ (List.take_subset n _) hd)
  · have hfilter := List.length_filterMap_le c.amount? ((c.entries ctx).take n)
    exact (hfilter.trans (List.length_take_le' n (c.entries ctx))).trans h.length_le

theorem IsStored.total (h : c.IsStored ctx) :
    ∃ sum, c.total? ctx = some sum ∧ sum.scale ≤ 2 ∧ sum.value = c.exactTotal ctx := by
  have hall := h.sum?_take (c.entries ctx).length
  rw [List.take_length] at hall
  rwa [total?, amounts_eq]

theorem render?_totalPlaceholder (hc : c.amountColumn?.isSome = true) :
    render? f ctx c.totalPlaceholder = (c.total? ctx).map f.amount := by
  obtain ⟨col, hcol, hkey⟩ := Placeholder.isSome_amountColumn?.1 hc
  exact render?_braced f ctx (.total hcol hkey)

/-- **A total of at most two places is printed as it is.** -/
theorem printed_of_total (hc : c.amountColumn?.isSome = true) {sum : Decimal}
    (hsum : c.total? ctx = some sum) (hscale : sum.scale ≤ 2) :
    render? f ctx c.totalPlaceholder
      = some ((if sum.value < 0 then ['-'] else []) ++ f.symbol
        ++ f.grouping.hundredths (sum.nearest 2).natAbs) := by
  have hneg : sum.nearest 2 < 0 ↔ sum.value < 0 := by
    rw [Decimal.value_eq_nearest hscale, div_lt_iff₀ (by norm_num), zero_mul, Int.cast_lt_zero]
  rw [render?_totalPlaceholder hc, hsum, Option.map_some, f.amount_eq, minus]
  simp only [hneg]

/-- **The totals of a stored collection are exact.** -/
theorem totalsExactly (f : Format) (hc : c.amountColumn?.isSome = true) (h : c.IsStored ctx) :
    c.TotalsExactly f ctx := by
  obtain ⟨sum, hsum, hscale, hvalue⟩ := h.total
  have hprinted := printed_of_total (f := f) hc hsum hscale
  have hunits := Decimal.value_eq_nearest hscale
  rw [hvalue] at hprinted hunits
  refine
    { running := fun n => ?_
      total := ⟨sum, hsum, hvalue⟩
      perm := fun ctx' hperm => ?_
      append := fun front back hparts => ?_
      printed := ⟨_, _, hprinted.trans (congrArg some (List.append_assoc _ _ _).symm), ?_⟩ }
  · obtain ⟨part, hpart, -, hpartValue⟩ := h.sum?_take n
    exact ⟨part, hpart, hpartValue⟩
  · obtain ⟨sum', hsum', hscale', hvalue'⟩ := (h.of_subset hperm.subset hperm.length_eq.le).total
    have hsame : sum'.value = c.exactTotal ctx := by
      rw [hvalue', exactTotal, exactTotal, sumOf, sumOf, (hperm.map _).sum_eq]
    refine ⟨⟨sum', hsum', hsame⟩, ?_⟩
    -- the two totals may have different scales, but not different hundredths
    have hnearest : sum'.nearest 2 = sum.nearest 2 := by
      rw [Decimal.nearest, Decimal.nearest, hsame, hvalue]
    rw [hprinted, printed_of_total hc hsum' hscale', hsame, hnearest]
  · have hlength := congrArg List.length hparts
    rw [List.length_append] at hlength
    have hfront : c.IsStored front :=
      h.of_subset (hparts ▸ List.subset_append_left _ _) (by omega)
    have hback : c.IsStored back :=
      h.of_subset (hparts ▸ List.subset_append_right _ _) (by omega)
    obtain ⟨first, hfirst, -, hfirstValue⟩ := hfront.total
    obtain ⟨second, hsecond, -, hsecondValue⟩ := hback.total
    refine ⟨sum, first, second, hsum, hfirst, hsecond, ?_⟩
    rw [hvalue, hfirstValue, hsecondValue, exactTotal, hparts, sumOf, List.map_append,
      List.sum_append]
    rfl
  · refine ⟨?_, ?_, ?_, ?_⟩
    · rw [Grouping.withoutCommas_groupDigits_ofNat]
      exact Text.isNumeral_ofNat _
    · exact Text.length_padLeft_ofNat (by decide) (Nat.mod_lt _ (by decide))
    · exact Text.isDigits_padLeft 2 _
    · rw [Grouping.withoutCommas_groupDigits_ofNat, Text.digitsValue_padLeft,
        Text.digitsValue_ofNat, Text.digitsValue_ofNat, Grouping.hundredths_value, hunits, abs_div,
        Nat.cast_natAbs, Int.cast_abs]
      norm_num

/-- Payments of different scales, one below zero and one without an amount: 1,259.75 in all. -/
def mixedPayments : Context where
  documentType := .agreement
  today := ⟨2026, 3, 31, by decide, by decide⟩
  pending :=
    [{ id := 1, amount := Decimal.ofParts? 1250 0 }, { id := 2 },
      { id := 3, amount := Decimal.ofParts? (-5) 1 },
      { id := 4, amount := Decimal.ofParts? 1025 2 }]

theorem totalsExactly_mixedPayments :
    (pending.amountColumn?.isSome = true ∧ pending.IsStored mixedPayments) ∧
      pending.TotalsExactly {} mixedPayments := by
  have hamount : pending.amountColumn?.isSome = true := by decide
  have hstored : pending.IsStored mixedPayments := by
    have hamounts : (pending.entries mixedPayments).filterMap pending.amount?
        = [⟨1250, 0, by decide, by decide⟩, ⟨-5, 1, by decide, by decide⟩,
          ⟨1025, 2, by decide, by decide⟩] := rfl
    refine ⟨fun d hd => ?_, by decide⟩
    rw [hamounts] at hd
    simp only [List.mem_cons, List.not_mem_nil, or_false] at hd
    rcases hd with rfl | rfl | rfl
    · exact ⟨by decide, by norm_num [Decimal.value]⟩
    · exact ⟨by decide, by norm_num [Decimal.value, abs_lt]⟩
    · exact ⟨by decide, by norm_num [Decimal.value, abs_lt]⟩
  exact ⟨⟨hamount, hstored⟩, totalsExactly {} hamount hstored⟩

end Collection

end Conveyance
