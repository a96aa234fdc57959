import Conveyance.Text.Basic

/-!
# Text/Numeral — whole numbers as decimal digits

`ofNat` and `ofInt` write, `digitsValue` reads a run of ASCII digits by the rule
"ten times what came before, plus the digit", so leading zeros do not change a value.
-/

namespace Conveyance.Text

/-- The decimal digits of a natural number, without leading zeros. -/
def ofNat (n : Nat) : Text := Nat.toDigits 10 n

/-- The decimal digits of an integer, after a minus sign when it is below zero. -/
def ofInt (n : Int) : Text := if n < 0 then '-' :: ofNat n.natAbs else ofNat n.natAbs

/-- The value of one ASCII digit. -/
def digitValue (c : Char) : Nat := c.toNat - 48

/-- **The number that a run of ASCII digits denotes**; leading zeros are allowed. -/
def digitsValue (ds : Text) : Nat := ds.foldl (fun n c => 10 * n + digitValue c) 0

/-- A non-empty run of ASCII digits. -/
def isDigits (t : Text) : Bool := !t.isEmpty && t.all Char.isDigit

/-- At least `width` characters, filled up with `fill` on the left. -/
def padLeft (fill : Char) (width : Nat) (t : Text) : Text :=
  List.replicate (width - t.length) fill ++ t

/-- A whole number in exactly the form digits, with an optional minus sign. -/
def readInt? : Text → Option Int
  | '-' :: ds => if isDigits ds then some (-(digitsValue ds : Int)) else none
  | ds => if isDigits ds then some (digitsValue ds) else none

end Conveyance.Text
