import Conveyance.Catalog.Collection
import Conveyance.Catalog.Scalar

/-!
# Catalog/Placeholder — what may stand between double braces

A `Placeholder` names a single field, one cell of a collection, or a table, total or count of a
whole collection.  `Placeholder.ofName?` reads the word between the braces, `Placeholder.read?`
recognizes a placeholder at the start of a text.  **A bracket always means a single cell**: a word
with a malformed bracket names nothing.
-/

namespace Conveyance

/-- What a placeholder stands for. -/
inductive Placeholder where
  | scalar (field : Scalar)
  | current (field : CurrentField)
  /-- One cell: the place of its column and of its entry, both counted from 0. -/
  | cell (collection : Collection) (column index : Nat)
  | table (collection : Collection)
  | total (collection : Collection)
  | count (collection : Collection)
  deriving DecidableEq, Repr

namespace Placeholder

/-- The characters of a placeholder's name. -/
def isNameChar (c : Char) : Bool := c.isUpper || c.isDigit || c == '_' || c == '[' || c == ']'

/-- **The entry that a run of digits names**; numbers beyond 64 bits all name the last one that can
be named, which no collection has. -/
def readIndex? (digits : Text) : Option Nat :=
  if Text.isDigits digits then some (min (Text.digitsValue digits) (twoTo 64 - 1)) else none

/-- A single cell, from the name before the bracket and what follows the bracket. -/
def ofCellName? (field rest : Text) : Option Placeholder := do
  let digits ← Text.stripSuffix? [']'] rest
  let index ← readIndex? digits
  let (collection, column) ← Collection.ofField? field
  return cell collection column index

/-- A table of a whole collection. -/
def ofTableName? (n : Text) : Option Placeholder := do
  let plural ← Text.stripSuffix? "_TABLE".toList n
  let collection ← Collection.ofPlural? plural
  return table collection

/-- A total, over a collection that has amounts. -/
def ofTotalName? (n : Text) : Option Placeholder := do
  let rest ← Text.stripPrefix? "TOTAL_".toList n
  let plural ← Text.stripSuffix? "_AMOUNT".toList rest
  let collection ← Collection.ofPlural? plural
  if collection.amountColumn?.isSome then return total collection else failure

/-- The number of entries of a collection. -/
def ofCountName? (n : Text) : Option Placeholder := do
  let plural ← Text.stripSuffix? "_COUNT".toList n
  let collection ← Collection.ofPlural? plural
  return count collection

/-- What a word names when it has no bracket. -/
def ofPlainName? (n : Text) : Option Placeholder :=
  (ofTableName? n).or <| (ofTotalName? n).or <| (ofCountName? n).or <|
    ((Scalar.ofName? n).map scalar).or ((CurrentField.ofName? n).map current)

/-- **What a word between braces names.** -/
def ofName? (n : Text) : Option Placeholder :=
  if n.all isNameChar then
    match Text.breakOn? ['['] n with
    | some (field, rest) => ofCellName? field rest
    | none => ofPlainName? n
  else none

/-- The placeholder that starts a text, with what follows it. -/
def read? (t : Text) : Option (Placeholder × Text) := do
  let body ← Text.stripPrefix? ['{', '{'] t
  let (name, rest) ← Text.breakOn? ['}', '}'] body
  let placeholder ← ofName? name
  return (placeholder, rest)

/-- **A recognized placeholder is a name of it between double braces.** -/
theorem exists_name_of_read? {t rest : Text} {p : Placeholder} (h : read? t = some (p, rest)) :
    ∃ name, t = ['{', '{'] ++ name ++ ['}', '}'] ++ rest ∧ ofName? name = some p := by
  simp only [read?, Option.bind_eq_bind, Option.bind_eq_some_iff, Option.pure_def,
    Option.some.injEq, Prod.mk.injEq, Prod.exists] at h
  obtain ⟨body, hbody, name, rest', hbreak, p', hname, rfl, rfl⟩ := h
  refine ⟨name, ?_, hname⟩
  rw [Text.eq_append_of_stripPrefix? hbody, Text.eq_append_of_breakOn? hbreak]
  simp

theorem length_lt_of_read? {t rest : Text} {p : Placeholder} (h : read? t = some (p, rest)) :
    rest.length < t.length := by
  obtain ⟨name, rfl, _⟩ := exists_name_of_read? h
  simp only [List.length_append, List.length_cons, List.length_nil]
  omega

end Placeholder

end Conveyance
