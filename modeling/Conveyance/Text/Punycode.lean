import Conveyance.Text.Basic

/-!
# Text/Punycode — any text in letters, digits and hyphens

The characters of ASCII come first, in their order.  Behind the last hyphen the others follow, from the
smallest code point to the largest: for each, the number of steps since the one before, where a step
leads over one place of the text, and past the end of the text to the next code point.  A number is
written with its smallest digit first, and **the first digit below its threshold ends it**, so numbers
need no mark between them.
-/

namespace Conveyance.Text.Punycode

/-! ## Digits -/

/-- A digit of base thirty-six: the letters first, then the ten digits. -/
def digit (d : Nat) : Char := if d < 26 then Char.ofNat (97 + d) else Char.ofNat (22 + d)

/-- The value of a digit; capital letters count as small ones. -/
def value? (c : Char) : Option Nat :=
  if 'a' ≤ c && c ≤ 'z' then some (c.toNat - 97)
  else if 'A' ≤ c && c ≤ 'Z' then some (c.toNat - 65)
  else if '0' ≤ c && c ≤ '9' then some (c.toNat - 22)
  else none

/-- The threshold of the digit at a place, which counts in thirty-sixes. -/
def threshold (bias place : Nat) : Nat :=
  if place ≤ bias then 1 else if bias + 26 ≤ place then 26 else place - bias

theorem threshold_pos (bias place : Nat) : 1 ≤ threshold bias place := by
  unfold threshold
  split
  · exact Nat.le_refl 1
  · split <;> omega

/-- A number brought below 456 in thirty-fifths, and thirty-six for each time. -/
def shrink (n : Nat) : Nat × Nat :=
  if 455 < n then ((shrink (n / 35)).1, (shrink (n / 35)).2 + 36) else (n, 0)
termination_by n
decreasing_by all_goals exact Nat.div_lt_self (by omega) (by decide)

/-- **The bias of the next number**, from the last one and how many characters are placed; the first
number is taken for unusually large. -/
def nextBias (steps placed : Nat) (isFirst : Bool) : Nat :=
  let n := if isFirst then steps / 700 else steps / 2
  let (n, places) := shrink (n + n / placed)
  places + 36 * n / (n + 38)

/-! ## Writing -/

/-- A number from the digit at a place on. -/
def number (bias place n : Nat) : Text :=
  let t := threshold bias place
  if n < t then [digit n]
  else digit (t + (n - t) % (36 - t)) :: number bias (place + 36) ((n - t) / (36 - t))
termination_by n
decreasing_by
  have h := threshold_pos bias place
  exact Nat.lt_of_le_of_lt (Nat.div_le_self _ _) (by omega)

/-- What is written, with the steps since the last character. -/
structure Writing where
  written : Text
  steps : Nat
  bias : Nat
  /-- How many characters are placed, and how many of them are ASCII. -/
  placed : Nat
  basic : Nat
  deriving DecidableEq, Repr

/-- One place of the text passed when the code point is `n`. -/
def Writing.pass (n : Nat) (w : Writing) (c : Char) : Writing :=
  if c.toNat < n then { w with steps := w.steps + 1 }
  else if c.toNat = n then
    { w with
      written := w.written ++ number w.bias 36 w.steps
      steps := 0
      bias := nextBias w.steps (w.placed + 1) (w.placed == w.basic)
      placed := w.placed + 1 }
  else w

/-- The code points of a text in turn, the next one at least `start`. -/
def writeFrom (t : Text) : (points : List Nat) → (start : Nat) → Writing → Writing
  | [], _, w => w
  | n :: points, start, w =>
    let w := t.foldl (Writing.pass n) { w with steps := w.steps + (n - start) * (w.placed + 1) }
    writeFrom t points (n + 1) { w with steps := w.steps + 1 }

/-- The character is one of ASCII. -/
def isBasic (c : Char) : Bool := c.toNat < 128

/-- **A text in letters, digits and hyphens.** -/
def encode (t : Text) : Text :=
  let basic := t.filter isBasic
  let points := ((t.filter (!isBasic ·)).map Char.toNat).mergeSort.eraseReps
  let start : Writing := { written := [], steps := 0, bias := 72, placed := basic.length,
                           basic := basic.length }
  basic ++ (if basic.isEmpty then [] else ['-']) ++ (writeFrom t points 128 start).written

/-! ## Reading -/

/-- A number from the digit at a place on, added to `n`, and what follows it. -/
def readNumber (bias : Nat) : (place weight n : Nat) → Text → Option (Nat × Text)
  | _, _, _, [] => none
  | place, weight, n, c :: t =>
    match value? c with
    | none => none
    | some d =>
      if d < threshold bias place then some (n + d * weight, t)
      else readNumber bias (place + 36) (weight * (36 - threshold bias place)) (n + d * weight) t

/-- **A number is at least one digit**, so reading goes on. -/
theorem length_lt_of_readNumber {bias : Nat} : ∀ {t : Text} {place weight n : Nat} {r : Nat × Text},
    readNumber bias place weight n t = some r → r.2.length < t.length
  | [], _, _, _, _, h => by simp [readNumber] at h
  | c :: t, place, weight, n, r, h => by
      rw [readNumber] at h
      split at h
      · cases h
      · split at h
        · cases h
          exact Nat.lt_succ_self _
        · exact Nat.lt_succ_of_lt (length_lt_of_readNumber h)

/-- The characters behind the last hyphen put into the text.  `steps` are those made before. -/
def readFrom (bias point steps : Nat) (text : Text) (t : Text) : Option Text :=
  if t.isEmpty then some text
  else match _h : readNumber bias 36 1 steps t with
    | none => none
    | some (total, rest) =>
      let places := text.length + 1
      let n := point + total / places
      if n.isValidChar then
        readFrom (nextBias (total - steps) places (steps == 0)) n
          (total % places + 1) (text.insertIdx (total % places) (Char.ofNat n)) rest
      else none
termination_by t.length
decreasing_by exact length_lt_of_readNumber _h

/-- **The text that letters, digits and hyphens stand for.** -/
def decode? (t : Text) : Option Text :=
  let written := (t.reverse.takeWhile (· != '-')).reverse
  let basic := t.take (t.length - written.length - 1)
  readFrom 72 128 0 basic (if basic.isEmpty then t else written)

end Conveyance.Text.Punycode
