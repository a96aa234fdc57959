import Conveyance.Number.Power
import Conveyance.Text.Numeral
import Mathlib.Data.List.Basic

/-!
# Proofs/Text/Numeral — digits and the numbers they denote

A number is written with no more digits than it needs (`isNumeral_ofNat`), and **its digits denote
it** (`digitsValue_ofNat`).  Zeros in front add nothing, and digits behind digits shift the number
that stands before them (`digitsValue_append`).
-/

namespace Conveyance.Text

/-- **A whole number without superfluous zeros**: digits that do not start with a zero, unless it is
the only one. -/
def IsNumeral (t : Text) : Prop := isDigits t = true ∧ (t.head? = some '0' → t = ['0'])

theorem digitsValue_eq (t : Text) : digitsValue t = Nat.ofDigitChars 10 t 0 :=
  Nat.ofDigitChars_eq_foldl.symm

theorem digitsValue_ofNat (n : Nat) : digitsValue (ofNat n) = n := by
  rw [digitsValue_eq]
  exact Nat.ofDigitChars_ten_toDigits

theorem ofNat_ne_nil (n : Nat) : ofNat n ≠ [] := Nat.toDigits_ne_nil

theorem isDigit_of_mem_ofNat {n : Nat} {c : Char} (hc : c ∈ ofNat n) : c.isDigit = true :=
  Nat.isDigit_of_mem_toDigits (by decide) (by decide) hc

theorem isDigits_ofNat (n : Nat) : isDigits (ofNat n) = true := by
  rw [isDigits, Bool.and_eq_true, List.all_eq_true, Bool.not_eq_true', List.isEmpty_eq_false_iff]
  exact ⟨ofNat_ne_nil n, fun c hc => isDigit_of_mem_ofNat hc⟩

/-- **A number is written without superfluous zeros.** -/
theorem isNumeral_ofNat (n : Nat) : IsNumeral (ofNat n) := by
  refine ⟨isDigits_ofNat n, ?_⟩
  induction n using Nat.strongRecOn with
  | _ n ih =>
    by_cases hn : n < 10
    · intro hzero
      rw [ofNat, Nat.toDigits_of_lt_base hn] at hzero ⊢
      rw [Option.some.inj hzero]
    · intro hzero
      have hsplit : ofNat n = ofNat (n / 10) ++ [Nat.digitChar (n % 10)] :=
        Nat.toDigits_of_base_le (by decide) (Nat.le_of_not_lt hn)
      rw [hsplit, List.head?_append_of_ne_nil _ (ofNat_ne_nil _)] at hzero
      -- the digits before the last one are those of a number that is not zero
      have hvalue := digitsValue_ofNat (n / 10)
      rw [ih (n / 10) (by omega) hzero] at hvalue
      have hten : digitsValue ['0'] = 0 := rfl
      omega

/-- Digits behind digits: those before count tens for each of those behind. -/
theorem digitsValue_append (s t : Text) :
    digitsValue (s ++ t) = tenTo t.length * digitsValue s + digitsValue t := by
  rw [digitsValue_eq, Nat.ofDigitChars_append, Nat.ofDigitChars_eq_ofDigitChars_zero,
    ← digitsValue_eq, ← digitsValue_eq, tenTo, Nat.pow_eq]

theorem digitsValue_replicate_zero (n : Nat) : digitsValue (List.replicate n '0') = 0 := by
  induction n with
  | zero => rfl
  | succ n ih =>
    rw [List.replicate_succ', digitsValue_append, ih]
    rfl

/-- Zeros in front add nothing. -/
theorem digitsValue_padLeft (width : Nat) (t : Text) :
    digitsValue (padLeft '0' width t) = digitsValue t := by
  rw [padLeft, digitsValue_append, digitsValue_replicate_zero, Nat.mul_zero, Nat.zero_add]

theorem isDigit_of_mem_padLeft {width n : Nat} {c : Char} (hc : c ∈ padLeft '0' width (ofNat n)) :
    c.isDigit = true := by
  rcases List.mem_append.1 hc with hc | hc
  · rw [List.eq_of_mem_replicate hc]
    rfl
  · exact isDigit_of_mem_ofNat hc

theorem isDigits_padLeft (width n : Nat) : isDigits (padLeft '0' width (ofNat n)) = true := by
  rw [isDigits, Bool.and_eq_true, List.all_eq_true, Bool.not_eq_true', List.isEmpty_eq_false_iff]
  exact ⟨fun h => ofNat_ne_nil n (List.append_eq_nil_iff.1 h).2,
    fun c hc => isDigit_of_mem_padLeft hc⟩

/-- **A number that fits is written in exactly the given width.** -/
theorem length_padLeft_ofNat {width n : Nat} (hwidth : 0 < width) (hn : n < tenTo width) :
    (padLeft '0' width (ofNat n)).length = width := by
  have hle : (ofNat n).length ≤ width := (Nat.length_toDigits_le_iff (by decide) hwidth).2 hn
  rw [padLeft, List.length_append, List.length_replicate]
  omega

end Conveyance.Text
