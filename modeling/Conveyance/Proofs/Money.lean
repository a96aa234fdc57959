import Conveyance.Format
import Conveyance.Proofs.Number.Grouping
import Conveyance.Proofs.Number.Nearest
import Conveyance.Proofs.Text.Numeral

/-!
# Proofs/Money — what a written amount says

An amount is rounded to the nearest hundredth, a half going away from zero, and written as a sign,
the symbol, the grouped whole part and two places.  **The text says exactly the rounded number**
(`Format.money_shows_nearest`): its digits, read without the commas, are the hundredths, and the
minus sign stands there exactly when they are below zero.  So two amounts are written alike exactly
when they round to the same hundredth, whatever the symbol is.
-/

namespace Conveyance

/-- A minus sign in front of a number below zero. -/
def minus (n : ℤ) : Text := if n < 0 then ['-'] else []

/-- Whole digits with separators, without them. -/
def Text.withoutCommas (t : Text) : Text := t.filter (· != ',')

namespace Grouping

variable (g : Grouping)

theorem withoutCommas_groupDigits_ofNat (n : Nat) :
    (g.groupDigits (Text.ofNat n)).withoutCommas = Text.ofNat n := by
  rw [Text.withoutCommas, filter_groupDigits g rfl, List.filter_eq_self]
  intro c hc
  have hdigit := Text.isDigit_of_mem_ofNat hc
  rw [bne_iff_ne]
  rintro rfl
  cases hdigit

/-- A number of hundredths: its whole part with separators, a point and two places. -/
def hundredths (n : Nat) : Text :=
  g.groupDigits (Text.ofNat (n / 100)) ++ '.' :: Text.padLeft '0' 2 (Text.ofNat (n % 100))

/-- **The digits of hundredths denote them.** -/
theorem digitsValue_hundredths (n : Nat) :
    Text.digitsValue ((g.hundredths n).filter Char.isDigit) = n := by
  have hwhole : (Text.ofNat (n / 100)).filter Char.isDigit = Text.ofNat (n / 100) :=
    List.filter_eq_self.2 fun c hc => Text.isDigit_of_mem_ofNat hc
  have hplaces : (Text.padLeft '0' 2 (Text.ofNat (n % 100))).filter Char.isDigit
      = Text.padLeft '0' 2 (Text.ofNat (n % 100)) :=
    List.filter_eq_self.2 fun c hc => Text.isDigit_of_mem_padLeft hc
  have hlength : (Text.padLeft '0' 2 (Text.ofNat (n % 100))).length = 2 :=
    Text.length_padLeft_ofNat (by decide) (Nat.mod_lt _ (by decide))
  rw [hundredths, List.filter_append, filter_groupDigits g rfl, hwhole,
    List.filter_cons_of_neg (by decide), hplaces, Text.digitsValue_append, hlength,
    Text.digitsValue_padLeft, Text.digitsValue_ofNat, Text.digitsValue_ofNat]
  exact Nat.div_add_mod n 100

/-- **The number behind them**: the whole part and the places as a fraction. -/
theorem hundredths_value (n : Nat) : ((n / 100 : ℕ) : ℚ) + ((n % 100 : ℕ) : ℚ) / 100 = n / 100 := by
  have hn : ((100 * (n / 100) + n % 100 : ℕ) : ℚ) = n := by rw [Nat.div_add_mod]
  rw [← hn]
  push_cast
  ring

theorem hundredths_injective : Function.Injective g.hundredths := fun m n h => by
  rw [← g.digitsValue_hundredths m, h, g.digitsValue_hundredths]

/-- Hundredths are written without a sign. -/
theorem minus_notMem_hundredths (n : Nat) : '-' ∉ g.hundredths n := by
  intro h
  rcases List.mem_append.1 h with h | h
  · have hwhole : '-' ∈ (g.groupDigits (Text.ofNat (n / 100))).withoutCommas :=
      List.mem_filter.2 ⟨h, rfl⟩
    rw [withoutCommas_groupDigits_ofNat] at hwhole
    cases Text.isDigit_of_mem_ofNat hwhole
  · rcases List.mem_cons.1 h with h | h
    · cases h
    · cases Text.isDigit_of_mem_padLeft h

end Grouping

/-- What stands behind a text shows whether a character was put in front of it. -/
theorem Text.cons_append_ne {c : Char} {s t u : Text} (hu : c ∉ u) : c :: (s ++ t) ≠ s ++ u := by
  induction s with
  | nil =>
    rintro rfl
    exact hu List.mem_cons_self
  | cons d s ih =>
    intro h
    obtain ⟨rfl, h⟩ := List.cons.inj h
    exact ih h

namespace Format

variable (f : Format) (v : Decimal)

/-- **Money shows the rounded number**: its sign, the symbol, the whole part and the places. -/
theorem currency_eq (places : Nat) :
    f.currency places v = minus (v.nearest places) ++ f.symbol
      ++ f.grouping.groupDigits (Text.ofNat ((v.nearest places).natAbs / tenTo places))
      ++ (if places = 0 then []
        else '.' :: Text.padLeft '0' places
          (Text.ofNat ((v.nearest places).natAbs % tenTo places))) := by
  have hsign : (if decide (v.coeff < 0) && v.unitsAt places != 0 then ['-'] else [])
      = minus (v.nearest places) := by
    simp only [minus, v.nearest_neg_iff, Bool.and_eq_true, decide_eq_true_eq, bne_iff_ne]
  rw [currency, money, hsign, v.natAbs_nearest]

theorem amount_eq :
    f.amount v = minus (v.nearest 2) ++ f.symbol
      ++ f.grouping.hundredths (v.nearest 2).natAbs := by
  rw [amount, currency_eq, List.append_assoc]
  rfl

/-- A whole price is written without places. -/
theorem price_eq_of_value_eq {n : ℤ} (h : v.value = n) :
    f.price v = minus n ++ f.symbol ++ f.grouping.groupDigits (Text.ofNat n.natAbs) := by
  have hnearest : v.nearest 0 = n := by rw [v.nearest_of_value_eq h, pow_zero, mul_one]
  rw [price, if_pos (Decimal.isWhole_iff.2 ⟨n, h⟩), currency_eq, hnearest, tenTo_zero, Nat.div_one,
    if_pos rfl, List.append_nil]

/-- A value that is whole is below zero when it is so rounded. -/
theorem minus_nearest_of_value_eq {v : Decimal} {n : ℤ} (h : v.value = n) (places : Nat) :
    minus (v.nearest places) = minus n := by
  simp only [minus, v.nearest_of_value_eq h, mul_tenPow_neg_iff]

theorem price_eq_amount (h : ¬∃ n : ℤ, v.value = n) : f.price v = f.amount v := by
  rw [price, if_neg (mt Decimal.isWhole_iff.1 h), amount]

/-- **Amounts are written alike** exactly when they round to the same hundredth. -/
theorem amount_eq_amount_iff (w : Decimal) :
    f.amount v = f.amount w ↔ v.nearest 2 = w.nearest 2 := by
  refine ⟨fun h => ?_, fun h => by rw [amount_eq, amount_eq, h]⟩
  rw [amount_eq, amount_eq, minus, minus] at h
  split at h
  · next hv =>
    split at h
    · next hw =>
      have hsize := f.grouping.hundredths_injective (List.append_cancel_left h)
      omega
    · exact absurd h (Text.cons_append_ne (f.grouping.minus_notMem_hundredths _))
  · next hv =>
    split at h
    · exact absurd h.symm (Text.cons_append_ne (f.grouping.minus_notMem_hundredths _))
    · next hw =>
      have hsize := f.grouping.hundredths_injective (List.append_cancel_left h)
      omega

/-- **What a written amount says.**  It is a sign, the symbol, a whole number with commas, a point
and two digits; read as a number these are the size of the value, rounded to the nearest hundredth
with a half going away from zero, and the sign is a minus exactly when the rounded value is below
zero.  A price of a whole value is the same sign, the symbol and the value's exact size with commas;
any other price is the amount.  Two amounts are written alike exactly when they round to the same
hundredth. -/
theorem money_shows_nearest :
    (∃ whole places : Text,
      f.amount v = minus (v.nearest 2) ++ f.symbol ++ whole ++ '.' :: places ∧
        whole.withoutCommas.IsNumeral ∧ places.length = 2 ∧ Text.isDigits places = true ∧
        (Text.digitsValue whole.withoutCommas : ℚ) + Text.digitsValue places / 100
          = (roundAway (|v.value| * 100) : ℚ) / 100) ∧
      ((∃ n : ℤ, v.value = n) ∧ (∃ whole : Text,
          f.price v = minus (v.nearest 2) ++ f.symbol ++ whole ∧
            whole.withoutCommas.IsNumeral ∧
            (Text.digitsValue whole.withoutCommas : ℚ) = |v.value|) ∨
        (¬∃ n : ℤ, v.value = n) ∧ f.price v = f.amount v) ∧
      ∀ w, f.amount v = f.amount w ↔ v.nearest 2 = w.nearest 2 := by
  have hsize : ((v.nearest 2).natAbs : ℚ) = roundAway (|v.value| * 100) := by
    have hscale : |v.value| * 10 ^ 2 = |v.value| * 100 := by norm_num
    rw [← hscale, ← v.natAbs_nearest_eq_roundAway 2, Int.cast_natCast]
  refine ⟨?_, ?_, f.amount_eq_amount_iff v⟩
  · refine ⟨_, _, (f.amount_eq v).trans (List.append_assoc _ _ _).symm, ?_, ?_, ?_, ?_⟩
    · rw [Grouping.withoutCommas_groupDigits_ofNat]
      exact Text.isNumeral_ofNat _
    · exact Text.length_padLeft_ofNat (by decide) (Nat.mod_lt _ (by decide))
    · exact Text.isDigits_padLeft 2 _
    · rw [Grouping.withoutCommas_groupDigits_ofNat, Text.digitsValue_padLeft,
        Text.digitsValue_ofNat, Text.digitsValue_ofNat, Grouping.hundredths_value, hsize]
  · by_cases hwhole : ∃ n : ℤ, v.value = n
    · obtain ⟨n, hn⟩ := hwhole
      refine .inl ⟨⟨n, hn⟩, f.grouping.groupDigits (Text.ofNat n.natAbs), ?_, ?_, ?_⟩
      · rw [f.price_eq_of_value_eq v hn, minus_nearest_of_value_eq hn]
      · rw [Grouping.withoutCommas_groupDigits_ofNat]
        exact Text.isNumeral_ofNat _
      · rw [Grouping.withoutCommas_groupDigits_ofNat, Text.digitsValue_ofNat, hn, Nat.cast_natAbs,
          Int.cast_abs]
    · exact .inr ⟨hwhole, f.price_eq_amount v hwhole⟩

-- A carry over the point, and a size that rounds to nothing.
example : ({} : Format).amount ⟨999995, 3, by decide, by decide⟩ = "₹1,000.00".toList := by
  decide +kernel

example : ({} : Format).amount ⟨-4, 3, by decide, by decide⟩ = "₹0.00".toList := by decide +kernel

end Format

end Conveyance
