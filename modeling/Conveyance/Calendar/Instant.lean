import Conveyance.Calendar.Date

/-!
# Calendar/Instant — points in time

An `Instant` is a day and a time of day in UTC, to the nanosecond; a second of 60 is a leap second.
`Instant.read?` takes RFC 3339 text with any offset and **moves it to UTC**, over the ends of days
where it has to; `Instant.text` writes it back with as many decimal places as it needs, in threes.
-/

namespace Conveyance

/-- A point in time, in UTC. -/
structure Instant where
  date : Date
  hour : Nat
  minute : Nat
  second : Nat
  nanosecond : Nat
  deriving DecidableEq

namespace Instant

/-- Two ASCII digits at the start of a text. -/
def readTwo? : Text → Option (Nat × Text)
  | a :: b :: t => if Text.isDigits [a, b] then some (Text.digitsValue [a, b], t) else none
  | _ => none

/-- A given character at the start of a text. -/
def readChar? (p : Char → Bool) : Text → Option Text
  | c :: t => if p c then some t else none
  | [] => none

/-- A fraction of a second in nanoseconds; digits after the ninth are dropped. -/
def readFraction? : Text → Option (Nat × Text)
  | '.' :: t =>
    let ds := t.takeWhile Char.isDigit
    let nine := (ds ++ List.replicate 9 '0').take 9
    if ds.isEmpty then none else some (Text.digitsValue nine, t.dropWhile Char.isDigit)
  | t => some (0, t)

/-- The minutes that a written offset lies before UTC, below zero when it lies after. -/
def readOffset? : Text → Option Int
  | ['Z'] | ['z'] => some 0
  | sign :: t => do
    let (hours, t) ← readTwo? t
    let t ← readChar? (· == ':') t
    let (minutes, t) ← readTwo? t
    if t.isEmpty && hours < 24 && minutes < 60 then
      if sign = '+' then some (-(60 * hours + minutes : Int))
      else if sign = '-' then some (60 * hours + minutes : Int)
      else none
    else none
  | [] => none

/-- A day and the minutes since its start, moved by less than a day. -/
def moved? (date : Date) (minutes : Int) : Option (Date × Nat) :=
  if minutes < 0 then date.previous?.map (·, (minutes + 1440).toNat)
  else if 1440 ≤ minutes then date.next?.map (·, (minutes - 1440).toNat)
  else some (date, minutes.toNat)

/-- **A time in RFC 3339**, moved to UTC. -/
def read? (t : Text) : Option Instant := do
  let date ← Date.read? (t.take 10)
  let t ← readChar? (fun c => c == 'T' || c == 't' || c == ' ') (t.drop 10)
  let (hour, t) ← readTwo? t
  let t ← readChar? (· == ':') t
  let (minute, t) ← readTwo? t
  let t ← readChar? (· == ':') t
  let (second, t) ← readTwo? t
  let (nanosecond, t) ← readFraction? t
  let offset ← readOffset? t
  if hour < 24 && minute < 60 && second ≤ 60 then
    let (date, minutes) ← moved? date (60 * hour + minute + offset)
    some ⟨date, minutes / 60, minutes % 60, second, nanosecond⟩
  else none

/-- The places of a second: none, three, six or nine, as many as are needed. -/
def fractionText (n : Nat) : Text :=
  if n = 0 then []
  else if n % 1000000 = 0 then '.' :: Text.padLeft '0' 3 (Text.ofNat (n / 1000000))
  else if n % 1000 = 0 then '.' :: Text.padLeft '0' 6 (Text.ofNat (n / 1000))
  else '.' :: Text.padLeft '0' 9 (Text.ofNat n)

/-- The instant in RFC 3339. -/
def text (i : Instant) : Text :=
  i.date.text ++ 'T' :: Date.twoDigits i.hour ++ ':' :: Date.twoDigits i.minute ++
    ':' :: Date.twoDigits i.second ++ fractionText i.nanosecond ++ ['Z']

/-- **The instant as part of a file name**: the day, a dash and the time of day, digits only. -/
def stamp (i : Instant) : Text :=
  Date.yearText i.date.year ++ Date.twoDigits i.date.month ++ Date.twoDigits i.date.day ++
    '-' :: Date.twoDigits i.hour ++ Date.twoDigits i.minute ++ Date.twoDigits i.second

end Instant

end Conveyance
