import Conveyance.Format

/-!
# Catalog/Value — the value of a field, not yet written

A field of a record is text, a number with a meaning, or a date, or it is empty.  `Value.display`
writes it by a format, `Value.decimal?` is the number it carries, and **an empty field is written as
nothing**.
-/

namespace Conveyance

/-- The value of a field. -/
inductive Value where
  | empty
  | text (text : Text)
  /-- A payment, written with two places. -/
  | amount (value : Decimal)
  /-- A price or a budget, with places only when it is not whole. -/
  | price (value : Decimal)
  | date (value : Date)
  | percent (value : Decimal)
  | number (value : Decimal)
  | integer (value : Int)
  deriving DecidableEq

namespace Value

/-- A field that may be absent. -/
def ofOption {α : Type} (make : α → Value) : Option α → Value
  | some a => make a
  | none => empty

/-- The number that a value carries. -/
def decimal? : Value → Option Decimal
  | amount d | price d | percent d | number d => some d
  | integer i => Decimal.ofParts? i 0
  | _ => none

/-- **A value, written.** -/
def display (f : Format) : Value → Text
  | empty => []
  | text t => t
  | amount d => f.amount d
  | price d => f.price d
  | date d => f.date d
  | percent d => Format.plain d ++ ['%']
  | number d => Format.plain d
  | integer i => Text.ofInt i

end Value

end Conveyance
