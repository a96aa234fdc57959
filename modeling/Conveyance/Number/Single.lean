import Conveyance.Number.Decimal

/-!
# Number/Single — single-precision binary numbers, read and written exactly

A `Single` is a number `mantissa * 2 ^ exponent` of the 32-bit binary format, an infinity, or not a
number.  `Single.round` takes a quotient to the nearest such number, **a half going to the even
mantissa**; everything else is exact arithmetic on whole numbers.  `Single.text` writes the fewest
decimal digits that read back, never with a power of ten.
-/

namespace Conveyance

/-- A number of the 32-bit binary format. -/
inductive Single where
  | finite (negative : Bool) (mantissa : Nat) (exponent : Int)
  | infinite (negative : Bool)
  | nan
  deriving DecidableEq, Repr

namespace Single

/-! ## Rounding -/

/-- The largest `k` with `2 ^ k ≤ n / d`, for `n` and `d` above zero. -/
def log2Quotient (n d : Nat) : Int :=
  let k : Int := (Nat.log2 n : Int) - Nat.log2 d
  let below := if 0 ≤ k then decide (n < d * twoTo k.toNat) else decide (n * twoTo (-k).toNat < d)
  if below then k - 1 else k

/-- The quotient `n / d` in units of `2 ^ e`, rounded. -/
def unitsOf (n d : Nat) (e : Int) : Nat :=
  if 0 ≤ e then divHalfEven n (d * twoTo e.toNat) else divHalfEven (n * twoTo (-e).toNat) d

/-- **The nearest number to a quotient**; beyond the largest finite number it is infinite. -/
def round (negative : Bool) (n d : Nat) : Single :=
  if n = 0 then finite negative 0 (-149)
  else
    let e := max (-149) (log2Quotient n d - 23)
    let m := unitsOf n d e
    let (m, e) := if m = twoTo 24 then (twoTo 23, e + 1) else (m, e)
    if 104 < e then infinite negative else finite negative m e

/-- A whole number. -/
def ofNat (n : Nat) : Single := round false n 1

/-- A finite number as a quotient, its sign aside. -/
def quotient (mantissa : Nat) (exponent : Int) : Nat × Nat :=
  if 0 ≤ exponent then (mantissa * twoTo exponent.toNat, 1) else (mantissa, twoTo (-exponent).toNat)

/-! ## Arithmetic -/

/-- The number is a finite number, and not below zero. -/
def isNonnegative : Single → Bool
  | finite negative m _ => !negative || m == 0
  | _ => false

/-- **One less, but at least one**; what is not a number counts as one. -/
def predAtLeastOne : Single → Single
  | finite false m e =>
    let (n, d) := quotient m e
    if 2 * d < n then round false (n - d) d else ofNat 1
  | infinite false => infinite false
  | _ => ofNat 1

/-! ## Written form -/

/-- The decimal numbers `digit * 10 ^ k` next to a number that lie within what rounds to it: the
nearer one, **the larger of two that are equally near**. -/
def nearestAt? (m : Nat) (e k : Int) : Option Nat :=
  let a := tenTo k.toNat * twoTo (2 - e).toNat
  let b := tenTo (-k).toNat * twoTo (e - 2).toNat
  let value := 4 * m * b
  let low := (if m = twoTo 23 && -149 < e then 4 * m - 1 else 4 * m - 2) * b
  let high := (4 * m + 2) * b
  let fits := fun d : Nat =>
    0 < d && if m % 2 = 0 then low ≤ d * a && d * a ≤ high else low < d * a && d * a < high
  let below := value / a
  let above := below + 1
  match fits below, fits above with
  | true, true => some (if value - below * a < above * a - value then below else above)
  | true, false => some below
  | false, true => some above
  | false, false => none

/-- The fewest digits that read back, on the grids from `10 ^ top` down. -/
def shortestFrom (m : Nat) (e : Int) : (steps : Nat) → (top : Int) → Nat × Int
  | 0, top => (0, top)
  | steps + 1, top =>
    match nearestAt? m e top with
    | some d => (d, top)
    | none => shortestFrom m e steps (top - 1)

/-- The digits of a finite number above zero, and the power of ten they are taken at.  The largest
finite number is below `10 ^ 39`, and a grid of `10 ^ (-46)` is finer than any two numbers. -/
def shortest (m : Nat) (e : Int) : Nat × Int := shortestFrom m e 86 39

/-- The size of a finite number. -/
def sizeText (m : Nat) (e : Int) : Text :=
  if m = 0 then ['0']
  else
    let (d, k) := shortest m e
    if 0 ≤ k then Text.ofNat (d * tenTo k.toNat) else Decimal.fixedText d (-k).toNat

/-- **A number in decimal digits**, with a minus sign also in front of a negative zero. -/
def text : Single → Text
  | finite negative m e => (if negative then ['-'] else []) ++ sizeText m e
  | infinite negative => (if negative then ['-'] else []) ++ "inf".toList
  | nan => "NaN".toList

/-! ## Reading -/

/-- The number `digits * 10 ^ power`. -/
def ofScientific (negative : Bool) (digits : Nat) (power : Int) : Single :=
  let size : Int := (Text.ofNat digits).length
  if digits = 0 || size + power < -60 then finite negative 0 (-149)
  else if 60 < size + power then infinite negative
  else if 0 ≤ power then round negative (digits * tenTo power.toNat) 1
  else round negative digits (tenTo (-power).toNat)

/-- A power of ten: a letter, perhaps a sign, and digits. -/
def readPower? : Text → Option Int
  | [] => some 0
  | c :: t =>
    if c = 'e' || c = 'E' then
      match t with
      | '-' :: ds => if Text.isDigits ds then some (-(Text.digitsValue ds : Int)) else none
      | '+' :: ds => if Text.isDigits ds then some (Text.digitsValue ds) else none
      | ds => if Text.isDigits ds then some (Text.digitsValue ds) else none
    else none

/-- Digits with a point among them or at either end, and perhaps a power of ten; or a word. -/
def readSize? (negative : Bool) (t : Text) : Option Single :=
  let word := Text.asciiLower t
  if word = "inf".toList || word = "infinity".toList then some (infinite negative)
  else if word = "nan".toList then some nan
  else
    let whole := t.takeWhile Char.isDigit
    let rest := t.dropWhile Char.isDigit
    let (places, power) := match rest with
      | '.' :: r => (r.takeWhile Char.isDigit, r.dropWhile Char.isDigit)
      | r => ([], r)
    if whole.isEmpty && places.isEmpty then none
    else (readPower? power).map fun p =>
      ofScientific negative (Text.digitsValue (whole ++ places)) (p - places.length)

/-- **A written number**, with an optional sign. -/
def read? : Text → Option Single
  | '-' :: t => readSize? true t
  | '+' :: t => readSize? false t
  | t => readSize? false t

end Single

end Conveyance
