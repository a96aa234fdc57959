import Conveyance.Calendar.Instant
import Conveyance.Proofs.Text.Numeral

/-!
# Proofs/Calendar/Stamp — the second that a file name shows

Months, days, hours, minutes and seconds are below a hundred and years up to 9999 below ten thousand,
so each is written with a fixed number of digits and **can be read back** (`twoDigits_inj`,
`yearText_inj`).  Stamps of moments in such years are therefore as long as each other
(`length_stamp`), and equal when the moments lie in one second (`stamp_inj`).
-/

namespace Conveyance

theorem daysInMonth_le (year : Int) (month : Nat) : daysInMonth year month ≤ 31 := by
  unfold daysInMonth
  split
  all_goals first | decide | (split <;> decide)

theorem month_le_of_daysInMonth {year : Int} {month : Nat} (h : 0 < daysInMonth year month) :
    month ≤ 12 := by
  unfold daysInMonth at h
  split at h
  all_goals first | decide | exact absurd h (by decide)

namespace Date

theorem day_lt (d : Date) : d.day < 100 :=
  Nat.lt_of_le_of_lt (Nat.le_trans d.day_mem.2 (daysInMonth_le d.year d.month)) (by decide)

theorem month_lt (d : Date) : d.month < 100 :=
  Nat.lt_of_le_of_lt (month_le_of_daysInMonth (Nat.le_trans d.day_mem.1 d.day_mem.2)) (by decide)

theorem eq_of_fields {d e : Date} (hyear : d.year = e.year) (hmonth : d.month = e.month)
    (hday : d.day = e.day) : d = e := by
  cases d
  cases e
  simp_all

theorem length_twoDigits {n : Nat} (h : n < 100) : (twoDigits n).length = 2 :=
  Text.length_padLeft_ofNat (by decide) h

/-- **Two digits denote their number.** -/
theorem twoDigits_inj {m n : Nat} : twoDigits m = twoDigits n ↔ m = n := by
  refine ⟨fun h => ?_, congrArg twoDigits⟩
  have hvalue := congrArg Text.digitsValue h
  rwa [twoDigits, twoDigits, Text.digitsValue_padLeft, Text.digitsValue_padLeft,
    Text.digitsValue_ofNat, Text.digitsValue_ofNat] at hvalue

/-- A year of four digits, written. -/
theorem yearText_eq {year : Int} (h : 0 ≤ year ∧ year ≤ 9999) :
    yearText year = Text.padLeft '0' 4 (Text.ofNat year.natAbs) := if_pos h

theorem length_yearText {year : Int} (h : 0 ≤ year ∧ year ≤ 9999) : (yearText year).length = 4 := by
  have hlt : year.natAbs < tenTo 4 := by
    change year.natAbs < 10000
    omega
  rw [yearText_eq h, Text.length_padLeft_ofNat (by decide) hlt]

/-- **Four digits denote their year.** -/
theorem yearText_inj {y z : Int} (hy : 0 ≤ y ∧ y ≤ 9999) (hz : 0 ≤ z ∧ z ≤ 9999) :
    yearText y = yearText z ↔ y = z := by
  refine ⟨fun h => ?_, congrArg yearText⟩
  have hvalue := congrArg Text.digitsValue h
  rw [yearText_eq hy, yearText_eq hz, Text.digitsValue_padLeft, Text.digitsValue_padLeft,
    Text.digitsValue_ofNat, Text.digitsValue_ofNat] at hvalue
  omega

end Date

namespace Instant

/-- **A moment that a clock with a year of four digits shows.** -/
structure IsShown (i : Instant) : Prop where
  year : 0 ≤ i.date.year ∧ i.date.year ≤ 9999
  hour : i.hour < 24
  minute : i.minute < 60
  second : i.second ≤ 60

/-- The moments lie in one second. -/
structure SameSecond (i j : Instant) : Prop where
  date : i.date = j.date
  hour : i.hour = j.hour
  minute : i.minute = j.minute
  second : i.second = j.second

variable {i j : Instant}

theorem IsShown.length_two (h : i.IsShown) :
    (Date.twoDigits i.hour).length = 2 ∧ (Date.twoDigits i.minute).length = 2 ∧
      (Date.twoDigits i.second).length = 2 := by
  obtain ⟨-, hhour, hminute, hsecond⟩ := h
  exact ⟨Date.length_twoDigits (by omega), Date.length_twoDigits (by omega),
    Date.length_twoDigits (by omega)⟩

/-- **Stamps are as long as each other.** -/
theorem IsShown.length_stamp (h : i.IsShown) : i.stamp.length = 15 := by
  obtain ⟨hhour, hminute, hsecond⟩ := h.length_two
  simp only [stamp, List.length_append, List.length_cons, Date.length_yearText h.year,
    Date.length_twoDigits i.date.month_lt, Date.length_twoDigits i.date.day_lt, hhour, hminute,
    hsecond]

/-- **A stamp tells the second.** -/
theorem stamp_inj (hi : i.IsShown) (hj : j.IsShown) : i.stamp = j.stamp ↔ i.SameSecond j := by
  constructor
  · intro h
    obtain ⟨hhour, hminute, hsecond⟩ := hi.length_two
    obtain ⟨hhour', hminute', hsecond'⟩ := hj.length_two
    obtain ⟨h, hsec⟩ := List.append_inj' h (hsecond.trans hsecond'.symm)
    obtain ⟨h, hmin⟩ := List.append_inj' h (hminute.trans hminute'.symm)
    obtain ⟨h, htime⟩ := List.append_inj' h (congrArg (· + 1) (hhour.trans hhour'.symm))
    obtain ⟨h, hday⟩ := List.append_inj' h
      ((Date.length_twoDigits i.date.day_lt).trans (Date.length_twoDigits j.date.day_lt).symm)
    obtain ⟨hyear, hmonth⟩ := List.append_inj' h
      ((Date.length_twoDigits i.date.month_lt).trans (Date.length_twoDigits j.date.month_lt).symm)
    rw [Date.twoDigits_inj] at hsec hmin hday hmonth
    exact ⟨Date.eq_of_fields ((Date.yearText_inj hi.year hj.year).1 hyear) hmonth hday,
      Date.twoDigits_inj.1 (List.cons.inj htime).2, hmin, hsec⟩
  · rintro ⟨hdate, hhour, hminute, hsecond⟩
    rw [stamp, stamp, hdate, hhour, hminute, hsecond]

end Instant

end Conveyance
