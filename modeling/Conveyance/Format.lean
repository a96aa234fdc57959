import Conveyance.Calendar.Pattern
import Conveyance.Number.Decimal
import Conveyance.Number.Grouping

/-!
# Format — how amounts, prices and dates are written

A `Format` carries the currency symbol, the grouping of digits and the date pattern, and is handed
to whatever writes a value, so that two documents with different settings never meet.  Amounts have
two places, **a half going away from zero**; prices have none when they are whole; a date whose
pattern cannot be written falls back to ISO 8601.
-/

namespace Conveyance

/-- The conventions a document is written in. -/
structure Format where
  symbol : Text := ['₹']
  grouping : Grouping := .indian
  datePattern : Text := "%d/%m/%Y".toList
  deriving DecidableEq

namespace Format

/-- A number in units of `10 ^ (-places)` as money: the sign, the symbol, the grouped whole part and
the places. -/
def money (f : Format) (negative : Bool) (units places : Nat) : Text :=
  let sign := if negative && units != 0 then ['-'] else []
  let whole := f.grouping.groupDigits (Text.ofNat (units / tenTo places))
  let rest := if places = 0 then []
    else '.' :: Text.padLeft '0' places (Text.ofNat (units % tenTo places))
  sign ++ f.symbol ++ whole ++ rest

/-- A number rounded to the given places, as money. -/
def currency (f : Format) (places : Nat) (d : Decimal) : Text :=
  f.money (d.coeff < 0) (d.unitsAt places) places

/-- An amount, always with two places. -/
def amount (f : Format) (d : Decimal) : Text := f.currency 2 d

/-- A price, with two places only when it is not whole. -/
def price (f : Format) (d : Decimal) : Text := if d.isWhole then f.currency 0 d else f.currency 2 d

/-- A date by the pattern, or in ISO 8601 when the pattern cannot be written. -/
def date (f : Format) (d : Date) : Text := (Pattern.format? f.datePattern d).getD d.text

/-- A number without zeros at the end of its places. -/
def plain (d : Decimal) : Text := d.normalize.text

end Format

end Conveyance
