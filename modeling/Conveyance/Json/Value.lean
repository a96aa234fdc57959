import Conveyance.Number.Power
import Conveyance.Text.Numeral

/-!
# Json/Value — JSON values and their text

A number keeps the text it was written with, so that whole numbers are told from fractions and from
powers of ten (`Json.int?`), and **an object keeps its members in order, repeated names included**.
`Json.text` writes a value without blanks.
-/

namespace Conveyance

/-- A JSON value. -/
inductive Json where
  | null
  | bool (value : Bool)
  /-- A number, as it is written. -/
  | number (literal : Text)
  | string (value : Text)
  | array (items : List Json)
  | object (members : List (Text × Json))

namespace Json

/-! ## Making values -/

/-- A whole number. -/
def ofInt (n : Int) : Json := number (Text.ofInt n)

/-- A natural number. -/
def ofNat (n : Nat) : Json := number (Text.ofNat n)

/-- A value that may be absent; what is absent is null. -/
def ofOption {α : Type} (make : α → Json) : Option α → Json
  | some a => make a
  | none => null

/-- A text given as a string literal. -/
def literal (s : String) : Json := string s.toList

/-- An object whose names are string literals. -/
def record (members : List (String × Json)) : Json :=
  object (members.map fun (name, value) => (name.toList, value))

/-! ## Looking into values -/

/-- **The whole number that a value is**: digits with an optional minus sign, and not minus zero. -/
def int? : Json → Option Int
  | number literal => if literal = ['-', '0'] then none else Text.readInt? literal
  | _ => none

/-- A whole number that fits into so many bits, one of them for its sign. -/
def signed? (bits : Nat) (j : Json) : Option Int :=
  j.int?.filter fun n => decide (-(twoTo (bits - 1)) ≤ n) && decide (n < twoTo (bits - 1))

/-- The number of a record: 64 bits. -/
def id? (j : Json) : Option Int := j.signed? 64

/-- The text that a value is. -/
def string? : Json → Option Text
  | string t => some t
  | _ => none

/-- The items of an array. -/
def array? : Json → Option (List Json)
  | array items => some items
  | _ => none

/-- The members of an object. -/
def object? : Json → Option (List (Text × Json))
  | object members => some members
  | _ => none

/-- The value is null. -/
def isNull : Json → Bool
  | null => true
  | _ => false

/-- The last member with the given name that is not null. -/
def member? (name : String) : Json → Option Json
  | object members =>
    ((members.reverse.find? fun member => member.1 = name.toList).map (·.2)).filter (!·.isNull)
  | _ => none

/-! ## Text -/

/-- The digits of hexadecimal numbers. -/
def hexDigit (n : Nat) : Char := if n < 10 then Char.ofNat (48 + n) else Char.ofNat (87 + n)

/-- One character inside quotes. -/
def escapeChar (c : Char) : Text :=
  if c = '"' then ['\\', '"']
  else if c = '\\' then ['\\', '\\']
  else if c = '\n' then ['\\', 'n']
  else if c = '\r' then ['\\', 'r']
  else if c = '\t' then ['\\', 't']
  else if c = Char.ofNat 8 then ['\\', 'b']
  else if c = Char.ofNat 12 then ['\\', 'f']
  else if c.toNat < 32 then ['\\', 'u', '0', '0', hexDigit (c.toNat / 16), hexDigit (c.toNat % 16)]
  else [c]

/-- A text between quotes. -/
def quoted (t : Text) : Text := '"' :: t.flatMap escapeChar ++ ['"']

mutual

/-- **The text of a value**, without blanks. -/
def text : Json → Text
  | null => "null".toList
  | bool true => "true".toList
  | bool false => "false".toList
  | number literal => literal
  | string t => quoted t
  | array items => '[' :: itemsText items ++ [']']
  | object members => '{' :: membersText members ++ ['}']

/-- The texts of values, with commas between them. -/
def itemsText : List Json → Text
  | [] => []
  | [item] => text item
  | item :: rest => text item ++ ',' :: itemsText rest

/-- The texts of members, with commas between them. -/
def membersText : List (Text × Json) → Text
  | [] => []
  | [(name, value)] => quoted name ++ ':' :: text value
  | (name, value) :: rest => quoted name ++ ':' :: text value ++ ',' :: membersText rest

end

end Json

end Conveyance
