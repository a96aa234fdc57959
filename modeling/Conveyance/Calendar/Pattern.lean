import Conveyance.Calendar.Date

/-!
# Calendar/Pattern — date patterns

A pattern is literal text with specifiers such as `%d`, optionally with a padding mark as in `%-d`.
`Pattern.items` reads a pattern, `Pattern.format?` writes a date by it.  Two things can be wrong with
a pattern: a specifier that does not exist makes it `malformed`, and one that asks for a time of day
or a zone (`ofClock`) **cannot be answered by a date**, so no date can be written by it.
-/

namespace Conveyance

/-- What fills a number up to its width. -/
inductive Padding where
  | none
  | zero
  | space
  deriving DecidableEq, Repr

/-- A number that a specifier stands for. -/
inductive DateNumber where
  | year
  | century
  | yearOfCentury
  | isoYear
  | isoYearOfCentury
  | quarter
  | month
  | day
  | weekFromSunday
  | weekFromMonday
  | isoWeek
  | weekdayFromSunday
  | weekdayFromMonday
  | dayOfYear
  /-- A number of the time of day. -/
  | ofClock
  deriving DecidableEq, Repr

/-- A part of a pattern. -/
inductive PatternItem where
  | literal (text : Text)
  | number (number : DateNumber) (padding : Padding)
  | shortMonth
  | longMonth
  | shortWeekday
  | longWeekday
  /-- A word of the time of day or of the zone. -/
  | ofClock
  /-- A specifier that does not exist. -/
  | malformed
  deriving DecidableEq, Repr

namespace PatternItem

/-! ## Specifiers -/

/-- A number filled up with zeros. -/
def zeroed (n : DateNumber) : PatternItem := number n .zero

/-- The numbers that one letter stands for, with the padding that is theirs. -/
def ofNumberLetter? : Char → Option (DateNumber × Padding)
  | 'C' => some (.century, .zero)
  | 'G' => some (.isoYear, .zero)
  | 'H' => some (.ofClock, .zero)
  | 'I' => some (.ofClock, .zero)
  | 'M' => some (.ofClock, .zero)
  | 'S' => some (.ofClock, .zero)
  | 'U' => some (.weekFromSunday, .zero)
  | 'V' => some (.isoWeek, .zero)
  | 'W' => some (.weekFromMonday, .zero)
  | 'Y' => some (.year, .zero)
  | 'd' => some (.day, .zero)
  | 'e' => some (.day, .space)
  | 'f' => some (.ofClock, .zero)
  | 'g' => some (.isoYearOfCentury, .zero)
  | 'j' => some (.dayOfYear, .zero)
  | 'k' => some (.ofClock, .space)
  | 'l' => some (.ofClock, .space)
  | 'm' => some (.month, .zero)
  | 'q' => some (.quarter, .none)
  | 's' => some (.ofClock, .none)
  | 'u' => some (.weekdayFromMonday, .none)
  | 'w' => some (.weekdayFromSunday, .none)
  | 'y' => some (.yearOfCentury, .zero)
  | _ => none

/-- The words and the abbreviated patterns that one letter stands for. -/
def ofWordLetter? : Char → Option (List PatternItem)
  | 'A' => some [longWeekday]
  | 'B' => some [longMonth]
  | 'D' | 'x' =>
    some [zeroed .month, literal ['/'], zeroed .day, literal ['/'], zeroed .yearOfCentury]
  | 'F' => some [zeroed .year, literal ['-'], zeroed .month, literal ['-'], zeroed .day]
  | 'P' | 'p' | 'R' | 'T' | 'X' | 'Z' | 'c' | 'r' | 'z' | '+' => some [ofClock]
  | 'a' => some [shortWeekday]
  | 'b' | 'h' => some [shortMonth]
  | 'n' => some [literal ['\n']]
  | 't' => some [literal ['\t']]
  | 'v' => some [number .day .space, literal ['-'], shortMonth, literal ['-'], zeroed .year]
  | '%' => some [literal ['%']]
  | _ => none

/-- The padding that a mark asks for. -/
def ofPaddingMark? : Char → Option Padding
  | '-' => some .none
  | '0' => some .zero
  | '_' => some .space
  | _ => none

/-- The specifiers of more than one letter: zones with colons, and parts of a second. -/
def longSpecifiers : List Text :=
  [":::z", "::z", ":z", ".3f", ".6f", ".9f", ".f", "3f", "6f", "9f", "#z"].map String.toList

/-- A number after a padding mark. -/
def readPadded? (padding : Padding) : Text → Option (List PatternItem × Text)
  | [] => none
  | c :: rest => (ofNumberLetter? c).map fun found => ([number found.1 padding], rest)

/-- A specifier without a padding mark. -/
def readPlain? (c : Char) (t : Text) : Option (List PatternItem × Text) :=
  match ofNumberLetter? c with
  | some found => some ([number found.1 found.2], t)
  | none =>
    match ofWordLetter? c with
    | some found => some (found, t)
    | none => longSpecifiers.findSome? fun w => (Text.stripPrefix? w (c :: t)).map ([ofClock], ·)

/-- **The specifier after a percent sign**, with what follows it.  A padding mark goes with a number
only. -/
def readSpecifier? : Text → Option (List PatternItem × Text)
  | [] => none
  | c :: t =>
    match ofPaddingMark? c with
    | some padding => readPadded? padding t
    | none => readPlain? c t

theorem ne_nil_of_mem_longSpecifiers {w : Text} (h : w ∈ longSpecifiers) : w ≠ [] := by
  rintro rfl
  revert h
  decide

theorem length_lt_of_readSpecifier? {t rest : Text} {items : List PatternItem}
    (h : readSpecifier? t = some (items, rest)) : rest.length < t.length := by
  unfold readSpecifier? at h
  split at h
  · cases h
  · split at h
    · unfold readPadded? at h
      split at h
      · cases h
      · obtain ⟨_, _, heq⟩ := Option.map_eq_some_iff.1 h
        cases heq
        simp only [List.length_cons]
        omega
    · unfold readPlain? at h
      split at h
      · cases h
        simp
      · split at h
        · cases h
          simp
        · obtain ⟨w, hw, hread⟩ := List.exists_of_findSome?_eq_some h
          obtain ⟨rest', hrest, heq⟩ := Option.map_eq_some_iff.1 hread
          cases heq
          have hpos := List.length_pos_iff.2 (ne_nil_of_mem_longSpecifiers hw)
          rw [Text.eq_append_of_stripPrefix? hrest, List.length_append]
          omega

/-! ## Reading a pattern -/

/-- The parts of a pattern; reading ends at a specifier that does not exist. -/
def items : Text → List PatternItem
  | [] => []
  | c :: t =>
    if c = '%' then
      match h : readSpecifier? t with
      | some (found, rest) =>
        have := length_lt_of_readSpecifier? h
        found ++ items rest
      | none => [malformed]
    else literal [c] :: items t
termination_by t => t.length
decreasing_by
  · simp only [List.length_cons]; omega
  · simp

/-! ## Writing a date -/

/-- One byte as two characters, tens and units counted on from the digit zero; a byte above 99 runs
past the digits. -/
def twoPlaces (byte : Nat) (padding : Padding) : Text :=
  let units := Char.ofNat (48 + byte % 10)
  match byte / 10, padding with
  | 0, .none => [units]
  | 0, .space => [' ', units]
  | tens, _ => [Char.ofNat (48 + tens), units]

/-- A number filled up to its width. -/
def filled (width : Nat) (padding : Padding) (n : Nat) : Text :=
  match padding with
  | .none => Text.ofNat n
  | .zero => Text.padLeft '0' width (Text.ofNat n)
  | .space => Text.padLeft ' ' width (Text.ofNat n)

/-- A year in four places; outside 0 to 9999 it carries a sign, which takes a fifth. -/
def yearPlaces (year : Int) (padding : Padding) : Text :=
  if 0 ≤ year ∧ year ≤ 9999 then filled 4 padding year.natAbs
  else
    let sign := if year < 0 then '-' else '+'
    match padding with
    | .none => sign :: Text.ofNat year.natAbs
    | .zero => sign :: Text.padLeft '0' 4 (Text.ofNat year.natAbs)
    | .space => Text.padLeft ' ' 5 (sign :: Text.ofNat year.natAbs)

/-- A number of a date; a number of the time of day is none. -/
def numberText? (d : Date) (padding : Padding) : DateNumber → Option Text
  | .year => some (yearPlaces d.year padding)
  | .century => some (twoPlaces (d.year / 100 % 256).toNat padding)
  | .yearOfCentury => some (twoPlaces (d.year % 100).toNat padding)
  | .isoYear => some (yearPlaces d.isoWeek.1 padding)
  | .isoYearOfCentury => some (twoPlaces (d.isoWeek.1 % 100).toNat padding)
  | .quarter => some (Text.ofNat d.quarter)
  | .month => some (twoPlaces d.month padding)
  | .day => some (twoPlaces d.day padding)
  | .weekFromSunday => some (twoPlaces (d.weekFrom 6) padding)
  | .weekFromMonday => some (twoPlaces (d.weekFrom 0) padding)
  | .isoWeek => some (twoPlaces d.isoWeek.2 padding)
  | .weekdayFromSunday => some (Text.ofNat ((d.weekday + 1) % 7))
  | .weekdayFromMonday => some (Text.ofNat (d.weekday + 1))
  | .dayOfYear => some (filled 3 padding d.dayOfYear)
  | .ofClock => none

/-- The English names of the months. -/
def monthNames : List Text :=
  ["January", "February", "March", "April", "May", "June", "July", "August", "September",
    "October", "November", "December"].map String.toList

/-- The English names of the weekdays. -/
def weekdayNames : List Text :=
  ["Monday", "Tuesday", "Wednesday", "Thursday", "Friday", "Saturday", "Sunday"].map String.toList

/-- The name of the month of a date. -/
def monthName (d : Date) : Text := monthNames[d.month - 1]?.getD []

/-- The name of the weekday of a date. -/
def weekdayName (d : Date) : Text := weekdayNames[d.weekday]?.getD []

/-- A part of a pattern, written for a date. -/
def text? (d : Date) : PatternItem → Option Text
  | literal t => some t
  | number n padding => numberText? d padding n
  | shortMonth => some ((monthName d).take 3)
  | longMonth => some (monthName d)
  | shortWeekday => some ((weekdayName d).take 3)
  | longWeekday => some (weekdayName d)
  | ofClock => none
  | malformed => none

end PatternItem

namespace Pattern

/-- Every specifier of the pattern exists. -/
def isWellFormed (pattern : Text) : Bool :=
  (PatternItem.items pattern).all (· != .malformed)

/-- **The date written by a pattern**, or nothing when one part of the pattern cannot be written. -/
def format? (pattern : Text) (d : Date) : Option Text :=
  ((PatternItem.items pattern).mapM (PatternItem.text? d)).map List.flatten

end Pattern

end Conveyance
