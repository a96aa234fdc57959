import Conveyance.Catalog.Placeholder

/-!
# Catalog/Listing — every placeholder, for those who write templates

`listing` gives each placeholder with the group it belongs to and a line about it: single fields
first, then the fields of the current payment, then for each collection its cells, its table, its
total where it has one, and its count.  **Cells are listed once per column**, with `[n]` for the
entry.
-/

namespace Conveyance

/-- A line of the listing. -/
structure ListingEntry where
  token : Text
  group : Text
  description : Text
  deriving DecidableEq, Repr

namespace ListingEntry

/-- A name between double braces. -/
def braced (name : Text) : Text := ['{', '{'] ++ name ++ ['}', '}']

/-- A name in words: small letters, spaces for underscores, the first letter capital. -/
def humanized (name : Text) : Text :=
  match Text.asciiLower (Text.replaceChar '_' [' '] name) with
  | [] => []
  | c :: t => c.toUpper :: t

/-- A single field. -/
def ofScalar (s : Scalar) : ListingEntry := ⟨braced s.name, s.group, humanized s.name⟩

/-- A field of the current payment. -/
def ofCurrentField (f : CurrentField) : ListingEntry :=
  ⟨braced f.name, "Current payment".toList,
    humanized f.name ++ " of the exported payment request or receipt".toList⟩

/-- The cells of a column. -/
def ofColumn (c : Collection) (column : Column) : ListingEntry :=
  ⟨braced (c.singular ++ '_' :: column.key ++ "[n]".toList), humanized c.plural,
    column.header ++ " of entry n (0-based)".toList⟩

/-- What is listed for a collection. -/
def ofCollection (c : Collection) : List ListingEntry :=
  let group := humanized c.plural
  c.columns.map (ofColumn c) ++
    [⟨braced (c.plural ++ "_TABLE".toList), group, "Table of all ".toList ++ Text.asciiLower group⟩] ++
    (if c.amountColumn?.isSome then
      [⟨braced ("TOTAL_".toList ++ c.plural ++ "_AMOUNT".toList), group,
        "Sum of all amounts".toList⟩]
    else []) ++
    [⟨braced (c.plural ++ "_COUNT".toList), group, "Number of entries".toList⟩]

end ListingEntry

/-- **Every placeholder.** -/
def listing : List ListingEntry :=
  Scalar.all.map ListingEntry.ofScalar ++ CurrentField.all.map ListingEntry.ofCurrentField ++
    Collection.all.flatMap ListingEntry.ofCollection

end Conveyance
