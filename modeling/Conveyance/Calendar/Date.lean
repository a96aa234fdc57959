import Conveyance.Text.Numeral

/-!
# Calendar/Date — days of the Gregorian calendar

A `Date` is a day that exists, of a year between -262143 and 262142, in the calendar carried back
and forward without end.  `weekday`, `dayOfYear` and the ISO 8601 week are computed from the number
of days since the first of January of year 1, **which was a Monday**.
-/

namespace Conveyance

/-- A year with a 29th of February. -/
def isLeapYear (year : Int) : Bool := year % 4 == 0 && (year % 100 != 0 || year % 400 == 0)

/-- The number of days of a month; none for a month that does not exist. -/
def daysInMonth (year : Int) (month : Nat) : Nat :=
  match month with
  | 1 | 3 | 5 | 7 | 8 | 10 | 12 => 31
  | 4 | 6 | 9 | 11 => 30
  | 2 => if isLeapYear year then 29 else 28
  | _ => 0

/-- **A day that exists.** -/
structure Date where
  year : Int
  month : Nat
  day : Nat
  year_mem : -262143 ≤ year ∧ year ≤ 262142
  day_mem : 1 ≤ day ∧ day ≤ daysInMonth year month
  deriving DecidableEq

namespace Date

/-- The day with the given numbers, when there is one. -/
def of? (year : Int) (month day : Nat) : Option Date :=
  if h : (-262143 ≤ year ∧ year ≤ 262142) ∧ (1 ≤ day ∧ day ≤ daysInMonth year month) then
    some ⟨year, month, day, h.1, h.2⟩
  else none

/-! ## Counting days -/

/-- The number of the day in its year, the first of January being 1. -/
def dayOfYear (d : Date) : Nat :=
  (List.range (d.month - 1)).foldr (fun m days => daysInMonth d.year (m + 1) + days) d.day

/-- Days before the first of January of a year, counted from that of year 1. -/
def daysBeforeYear (year : Int) : Int :=
  let y := year - 1
  365 * y + y / 4 - y / 100 + y / 400

/-- The number of the day, the first of January of year 1 being 1. -/
def dayNumber (d : Date) : Int := daysBeforeYear d.year + d.dayOfYear

/-- The day of the week, Monday being 0 and Sunday 6. -/
def weekday (d : Date) : Nat := ((d.dayNumber - 1) % 7).toNat

/-- The number of days since the last such weekday, the day itself included. -/
def daysSince (d : Date) (weekday : Nat) : Nat := (d.weekday + 7 - weekday) % 7

/-- The week of the year, weeks starting on the given weekday and week 1 with the first of them. -/
def weekFrom (d : Date) (weekday : Nat) : Nat := (d.dayOfYear + 6 - d.daysSince weekday) / 7

/-- The number of ISO weeks of a year: 53 when it starts on a Thursday, or on a Wednesday and is a
leap year. -/
def isoWeeksOf (year : Int) : Nat :=
  let first := (daysBeforeYear year % 7).toNat
  if first = 3 || (first = 2 && isLeapYear year) then 53 else 52

/-- **The ISO 8601 week**: its year, and its number there.  A week belongs to the year that has its
Thursday. -/
def isoWeek (d : Date) : Int × Nat :=
  let week := (d.dayOfYear + 9 - d.weekday) / 7
  if week = 0 then (d.year - 1, isoWeeksOf (d.year - 1))
  else if week > isoWeeksOf d.year then (d.year + 1, 1)
  else (d.year, week)

/-- The quarter of the year, from 1 to 4. -/
def quarter (d : Date) : Nat := (d.month - 1) / 3 + 1

/-! ## Neighbours -/

/-- The day after, within the calendar's range. -/
def next? (d : Date) : Option Date :=
  (of? d.year d.month (d.day + 1)).or
    ((of? d.year (d.month + 1) 1).or (of? (d.year + 1) 1 1))

/-- The day before, within the calendar's range. -/
def previous? (d : Date) : Option Date :=
  (of? d.year d.month (d.day - 1)).or
    ((of? d.year (d.month - 1) (daysInMonth d.year (d.month - 1))).or (of? (d.year - 1) 12 31))

/-! ## ISO 8601 text -/

/-- Two digits. -/
def twoDigits (n : Nat) : Text := Text.padLeft '0' 2 (Text.ofNat n)

/-- A year in four digits, with a sign outside 0 to 9999. -/
def yearText (year : Int) : Text :=
  let digits := Text.padLeft '0' 4 (Text.ofNat year.natAbs)
  if 0 ≤ year ∧ year ≤ 9999 then digits else (if year < 0 then '-' else '+') :: digits

/-- Year, month and day, with dashes between them. -/
def text (d : Date) : Text :=
  yearText d.year ++ '-' :: twoDigits d.month ++ '-' :: twoDigits d.day

/-- A year: four digits, or a sign and at least four. -/
def readYear? : Text → Option Int
  | '-' :: ds => if Text.isDigits ds && 4 ≤ ds.length then some (-(Text.digitsValue ds : Int)) else none
  | '+' :: ds => if Text.isDigits ds && 4 ≤ ds.length then some (Text.digitsValue ds) else none
  | ds => if Text.isDigits ds && ds.length = 4 then some (Text.digitsValue ds) else none

/-- A written day: a year, and two digits each for month and day. -/
def read? (t : Text) : Option Date :=
  match t.reverse with
  | d0 :: d1 :: '-' :: m0 :: m1 :: '-' :: year =>
    if Text.isDigits [m1, m0] && Text.isDigits [d1, d0] then
      (readYear? year.reverse).bind fun y =>
        of? y (Text.digitsValue [m1, m0]) (Text.digitsValue [d1, d0])
    else none
  | _ => none

end Date

end Conveyance
