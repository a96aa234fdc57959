import Conveyance.Number.Rounding
import Conveyance.Text.Numeral

/-!
# Number/Decimal — decimal numbers with a 96-bit coefficient

A `Decimal` is a whole number `coeff` below `2 ^ 96` in size, divided by `10 ^ scale` with a scale of
at most 28; both bounds are part of the type, so a value that does not fit cannot be written down.
The scale is kept: `1000.00` and `1000` are equal as numbers and not as decimals, and zero has no
sign.  `read?` and `text` are the written form, `add?` is exact wherever the exact sum fits.
-/

namespace Conveyance

/-- **A decimal number** `coeff / 10 ^ scale`. -/
structure Decimal where
  coeff : Int
  scale : Nat
  coeff_lt : coeff.natAbs < twoTo 96
  scale_le : scale ≤ 28
  deriving DecidableEq

namespace Decimal

/-- The decimal with the given parts, when they are in range. -/
def ofParts? (coeff : Int) (scale : Nat) : Option Decimal :=
  if h : coeff.natAbs < twoTo 96 ∧ scale ≤ 28 then some ⟨coeff, scale, h.1, h.2⟩ else none

/-- Zero, without decimal places. -/
def zero : Decimal := ⟨0, 0, by decide, by decide⟩

/-- The number is zero. -/
def isZero (d : Decimal) : Bool := d.coeff == 0

/-- The size of the coefficient with a sign put back. -/
def withSign (negative : Bool) (n : Nat) : Int := if negative then -(n : Int) else n

theorem natAbs_withSign (negative : Bool) (n : Nat) : (withSign negative n).natAbs = n := by
  cases negative <;> simp [withSign]

/-! ## Written form -/

/-- The digits of `n / 10 ^ places` with exactly that many places. -/
def fixedText (n places : Nat) : Text :=
  let digits := Text.padLeft '0' (places + 1) (Text.ofNat n)
  let whole := digits.take (digits.length - places)
  if places = 0 then whole else whole ++ '.' :: digits.drop (digits.length - places)

/-- A minus sign for numbers below zero, the whole part, and as many places as the scale says. -/
def text (d : Decimal) : Text :=
  let size := fixedText d.coeff.natAbs d.scale
  if d.coeff < 0 then '-' :: size else size

/-- Digits after the point, read on from `data / 10 ^ scale`.  **Where a digit no longer fits, the
number is cut and that digit rounds it**, five going up; the digits after it are not looked at. -/
def readPlaces (data scale : Nat) : Text → Option (Nat × Nat)
  | [] => some (data, scale)
  | c :: rest =>
    if scale < 28 && 10 * data + Text.digitValue c < twoTo 96 then
      readPlaces (10 * data + Text.digitValue c) (scale + 1) rest
    else if Text.digitValue c < 5 then some (data, scale)
    else if data + 1 < twoTo 96 then some (data + 1, scale)
    else if scale = 0 then none
    else some ((data + 5) / 10, scale - 1)

/-- Digits, and perhaps a point and more digits. -/
def readUnsigned? (t : Text) : Option (Nat × Nat) :=
  let (whole, places) := match Text.breakOn? ['.'] t with
    | some (whole, places) => (whole, some places)
    | none => (t, none)
  if Text.isDigits whole && places.all Text.isDigits && Text.digitsValue whole < twoTo 96 then
    readPlaces (Text.digitsValue whole) 0 (places.getD [])
  else none

/-- A written decimal; a minus sign may stand in front. -/
def read? (t : Text) : Option Decimal :=
  match t with
  | '-' :: size => (readUnsigned? size).bind fun (n, scale) => ofParts? (-(n : Int)) scale
  | size => (readUnsigned? size).bind fun (n, scale) => ofParts? n scale

/-! ## Rounding and adding -/

/-- The size of the number in units of `10 ^ (-places)`, **rounded to the nearest, a half away from
zero**; exact when the scale is at most `places`. -/
def unitsAt (places : Nat) (d : Decimal) : Nat :=
  if d.scale ≤ places then d.coeff.natAbs * tenTo (places - d.scale)
  else divHalfUp d.coeff.natAbs (tenTo (d.scale - places))

/-- The number has no fractional part. -/
def isWhole (d : Decimal) : Bool := d.coeff.natAbs % tenTo d.scale == 0

/-- The same number without zeros at the end of its places. -/
def normalize (d : Decimal) : Decimal where
  coeff := withSign (d.coeff < 0) (trimTens d.coeff.natAbs d.scale).1
  scale := (trimTens d.coeff.natAbs d.scale).2
  coeff_lt := by
    rw [natAbs_withSign]
    exact Nat.lt_of_le_of_lt (trimTens_fst_le _ _) d.coeff_lt
  scale_le := Nat.le_trans (trimTens_snd_le _ _) d.scale_le

/-- The number `c / 10 ^ s` at the largest scale up to `k` at which it fits, a half going to the even
neighbour; `none` when even its whole part does not fit. -/
def fitBelow? (c : Int) (s : Nat) : Nat → Option Decimal
  | 0 => ofParts? (withSign (c < 0) (divHalfEven c.natAbs (tenTo s))) 0
  | k + 1 =>
    match ofParts? (withSign (c < 0) (divHalfEven c.natAbs (tenTo (s - (k + 1))))) (k + 1) with
    | some d => some d
    | none => fitBelow? c s k

/-- The coefficient at a scale that is at least the number's own. -/
def coeffAt (s : Nat) (d : Decimal) : Int := d.coeff * tenTo (s - d.scale)

/-- **The sum.**  A zero changes nothing, not even the scale of the other number.  Otherwise the sum has
the larger of the two scales, or where it does not fit there, the largest scale at which it does; there
is none when the whole part is too large. -/
def add? (a b : Decimal) : Option Decimal :=
  if a.isZero then some b
  else if b.isZero then some a
  else
    let s := max a.scale b.scale
    fitBelow? (a.coeffAt s + b.coeffAt s) s s

/-- The sum of a list, taken from left to right. -/
def sumFrom? (start : Decimal) (ds : List Decimal) : Option Decimal :=
  ds.foldlM add? start

/-- The sum of a list; the sum of nothing is zero. -/
def sum? (ds : List Decimal) : Option Decimal := sumFrom? zero ds

end Decimal

end Conveyance
