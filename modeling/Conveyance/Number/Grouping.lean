import Conveyance.Text.Basic

/-!
# Number/Grouping — thousands separators

`groupDigits` puts commas into a run of digits: the last three digits form a group of their own, and
what stands before them is grouped from the right in twos (`12,34,56,789`) or in threes
(`123,456,789`).  **Only commas are put in**; a run of three digits or fewer stays as it is.
-/

namespace Conveyance

/-- How many digits a group has that is not the last. -/
inductive Grouping where
  | indian
  | western
  deriving DecidableEq, Repr

namespace Grouping

/-- The size of a group that is not the last. -/
def size : Grouping → Nat
  | indian => 2
  | western => 3

theorem size_pos (g : Grouping) : 0 < g.size := by
  cases g <;> decide

/-- The name of a grouping. -/
def name : Grouping → Text
  | indian => "indian".toList
  | western => "western".toList

/-- The grouping that a word asks for, whatever its case and the blanks around it. -/
def ofWord? (w : Text) : Option Grouping :=
  let w := Text.asciiLower (Text.trim w)
  if w = "indian".toList || w = "en-in".toList then some indian
  else if w = "western".toList || w = "international".toList || w = "en-us".toList then some western
  else none

/-- A list cut into parts of `n + 1` from the left; the last one may be shorter. -/
def chunks (n : Nat) : Text → List Text
  | [] => []
  | c :: t => (c :: t.take n) :: chunks n (t.drop n)
termination_by t => t.length
decreasing_by
  simp only [List.length_cons, List.length_drop]
  omega

/-- Groups counted from the right, the first one as short as is left over. -/
def groupsFromRight (g : Grouping) (t : Text) : List Text :=
  ((chunks (g.size - 1) t.reverse).map List.reverse).reverse

/-- **Digits with separators.** -/
def groupDigits (g : Grouping) (digits : Text) : Text :=
  if digits.length ≤ 3 then digits
  else
    let head := digits.take (digits.length - 3)
    Text.join [','] (g.groupsFromRight head) ++ ',' :: digits.drop (digits.length - 3)

end Grouping

end Conveyance
