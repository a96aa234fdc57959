import Conveyance.Text.Numeral

/-!
# Host/Number — hosts told by a number

A host can be told by its number instead of a name.  A short number is written in up to four parts with
points between them, the last of which fills what the others leave; parts may be octal or hexadecimal.
A long number is eight groups between colons, **where a double colon stands for the groups that are
left out**, and two groups may be written as a short number.  `shortText` and `longText` are the one
written form of each.
-/

namespace Conveyance.Host

/-! ## Short numbers -/

/-- The value of a digit of base sixteen. -/
def hexValue? (c : Char) : Option Nat :=
  if '0' ≤ c && c ≤ '9' then some (c.toNat - 48)
  else if 'a' ≤ c && c ≤ 'f' then some (c.toNat - 87)
  else if 'A' ≤ c && c ≤ 'F' then some (c.toNat - 55)
  else none

/-- The number that digits of a base denote. -/
def digitsIn? (base : Nat) (t : Text) : Option Nat :=
  t.foldlM (fun n c => (hexValue? c).bind fun d => if d < base then some (base * n + d) else none) 0

/-- **One part of a short number**: octal after a zero, hexadecimal after a zero and an x, which may
stand alone, else decimal. -/
def part? (t : Text) : Option Nat :=
  match t with
  | [] => none
  | '0' :: 'x' :: t => digitsIn? 16 t
  | '0' :: 'X' :: t => digitsIn? 16 t
  | ['0'] => some 0
  | '0' :: t => digitsIn? 8 t
  | t => digitsIn? 10 t

/-- The parts between points; a point at the end is none of them. -/
def parts (t : Text) : List Text :=
  let parts := Text.splitOn '.' t
  if parts.getLast? = some [] then parts.dropLast else parts

/-- **A name that ends in a number is meant as a number.** -/
def isNumeric (t : Text) : Bool :=
  (parts t).getLast?.any fun last => Text.isDigits last || (part? last).isSome

/-- The size of all that `n` bytes can hold. -/
def bytesHold : (n : Nat) → Nat
  | 0 => 1
  | n + 1 => 256 * bytesHold n

/-- A number of some bytes from its parts: each but the last is one byte, the last fills the rest. -/
def ofParts? : (size : Nat) → List Nat → Option Nat
  | 0, _ => none
  | _ + 1, [] => none
  | size + 1, [n] => if n < bytesHold (size + 1) then some n else none
  | size + 1, n :: m :: ns =>
    if n < 256 then (ofParts? size (m :: ns)).map (n * bytesHold size + ·) else none

/-- **A short number**, as it may be written. -/
def short? (t : Text) : Option Nat := ((parts t).mapM part?).bind (ofParts? 4)

/-- A short number in four decimal parts. -/
def shortText (n : Nat) : Text :=
  Text.join ['.'] ([3, 2, 1, 0].map fun k => Text.ofNat (n / bytesHold k % 256))

/-! ## Long numbers -/

/-- One group of a long number: up to four digits of base sixteen. -/
def group? (t : Text) : Option Nat :=
  if t.isEmpty || 4 < t.length then none else digitsIn? 16 t

/-- One part of a short number inside a long one: up to 255, without zeros in front. -/
def byte? (t : Text) : Option Nat :=
  if Text.isDigits t && Text.digitsValue t < 256 && (t.length = 1 || t.head? != some '0') then
    some (Text.digitsValue t)
  else none

/-- Two groups written as a short number. -/
def twoGroups? (t : Text) : Option (List Nat) :=
  match (Text.splitOn '.' t).mapM byte? with
  | some [a, b, c, d] => some [256 * a + b, 256 * c + d]
  | _ => none

/-- The groups between colons; the last two may be written as a short number. -/
def groups? (mayEnd : Bool) (t : Text) : Option (List Nat) :=
  if t.isEmpty then some []
  else
    let parts := Text.splitOn ':' t
    match parts.mapM group? with
    | some gs => some gs
    | none =>
      if mayEnd then do return (← parts.dropLast.mapM group?) ++ (← parts.getLast?.bind twoGroups?)
      else none

/-- **A long number**, as it may be written. -/
def long? (t : Text) : Option (List Nat) :=
  match Text.breakOn? "::".toList t with
  | none => (groups? true t).bind fun gs => if gs.length = 8 then some gs else none
  | some (before, after) => do
    let gs ← groups? false before
    let hs ← groups? true after
    if gs.length + hs.length ≤ 7 then
      return gs ++ List.replicate (8 - gs.length - hs.length) 0 ++ hs
    else none

/-- How many zeros stand at the start. -/
def zeros (gs : List Nat) : Nat := (gs.takeWhile (· == 0)).length

/-- Where the longest run of zeros starts and how long it is; the first of several. -/
def longestZeros : List Nat → Nat × Nat
  | [] => (0, 0)
  | g :: gs =>
    let (start, n) := longestZeros gs
    if n ≤ zeros (g :: gs) then (0, zeros (g :: gs)) else (start + 1, n)

/-- Groups with colons between them. -/
def groupsText (gs : List Nat) : Text := Text.join [':'] (gs.map (Nat.toDigits 16))

/-- A long number in its one written form: **the longest run of two or more zeros is left out**. -/
def longText (gs : List Nat) : Text :=
  let (start, n) := longestZeros gs
  if n < 2 then groupsText gs
  else groupsText (gs.take start) ++ "::".toList ++ groupsText (gs.drop (start + n))

end Conveyance.Host
