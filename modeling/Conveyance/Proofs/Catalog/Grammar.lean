import Conveyance.Catalog.Placeholder
import Conveyance.Proofs.Text.Parts

/-!
# Proofs/Catalog/Grammar — the names that stand for placeholders

`Placeholder.Denotes` gives the grammar of names as it is written for authors: a cell is the name of
one entry, an underscore, the key of a column and a number in brackets; a table, a total and a count
are built from the name of the whole.  `ofName?_eq_some_iff` says that the reader **accepts exactly
these names**.
-/

namespace Conveyance

namespace Placeholder

/-- **The grammar of names.**  Columns and entries are counted from 0; numbers beyond 64 bits all
name the entry that no collection has. -/
inductive Denotes : Text → Placeholder → Prop
  | cell {c : Collection} {column : Nat} {col : Column} {digits : Text}
      (hcol : c.columns[column]? = some col) (hdigits : Text.isDigits digits = true) :
      Denotes (c.singular ++ '_' :: col.key ++ '[' :: digits ++ [']'])
        (.cell c column (min (Text.digitsValue digits) 18446744073709551615))
  | table (c : Collection) : Denotes (c.plural ++ "_TABLE".toList) (.table c)
  | total {c : Collection} {col : Column} (hcol : col ∈ c.columns)
      (hkey : col.key = "AMOUNT".toList) :
      Denotes ("TOTAL_".toList ++ c.plural ++ "_AMOUNT".toList) (.total c)
  | count (c : Collection) : Denotes (c.plural ++ "_COUNT".toList) (.count c)
  | scalar (f : Scalar) : Denotes f.name (.scalar f)
  | current (f : CurrentField) : Denotes f.name (.current f)

/-! ## The catalog, looked through once -/

/-- **Every column is found by its name**, and its name has no bracket. -/
theorem ofField?_of_column {c : Collection} {column : Nat} {col : Column}
    (h : c.columns[column]? = some col) :
    Collection.ofField? (c.singular ++ '_' :: col.key) = some (c, column)
      ∧ (c.singular ++ '_' :: col.key).all isNameChar = true
      ∧ '[' ∉ c.singular ++ '_' :: col.key := by
  have hall : ∀ entry ∈ c.columns.zipIdx,
      Collection.ofField? (c.singular ++ '_' :: entry.1.key) = some (c, entry.2)
        ∧ (c.singular ++ '_' :: entry.1.key).all isNameChar = true
        ∧ '[' ∉ c.singular ++ '_' :: entry.1.key := by
    cases c <;> decide
  exact hall (col, column) (List.mem_zipIdx_iff_getElem?.2 h)

theorem ofName?_table (c : Collection) :
    ofName? (c.plural ++ "_TABLE".toList) = some (.table c) := by
  cases c <;> decide

theorem ofName?_total {c : Collection} (h : c.amountColumn?.isSome = true) :
    ofName? ("TOTAL_".toList ++ c.plural ++ "_AMOUNT".toList) = some (.total c) := by
  cases c <;> revert h <;> decide

theorem ofName?_count (c : Collection) :
    ofName? (c.plural ++ "_COUNT".toList) = some (.count c) := by
  cases c <;> decide

theorem ofName?_scalar (f : Scalar) : ofName? f.name = some (.scalar f) := by
  cases f <;> decide

theorem ofName?_current (f : CurrentField) : ofName? f.name = some (.current f) := by
  cases f <;> decide

/-! ## The reader knows the grammar -/

theorem isNameChar_of_isDigit {c : Char} (h : c.isDigit = true) : isNameChar c = true := by
  simp [isNameChar, h]

theorem ofCellName?_eq_some {field rest : Text} {p : Placeholder} :
    ofCellName? field rest = some p ↔ ∃ digits c column,
      rest = digits ++ [']'] ∧ Text.isDigits digits = true
        ∧ Collection.ofField? field = some (c, column)
        ∧ p = .cell c column (min (Text.digitsValue digits) 18446744073709551615) := by
  have hmax : twoTo 64 - 1 = 18446744073709551615 := by decide
  simp only [ofCellName?, readIndex?, Option.bind_eq_bind, Option.bind_eq_some_iff,
    Text.stripSuffix?_eq_some, Option.pure_def, Option.some.injEq, Prod.exists, hmax]
  constructor
  · rintro ⟨digits, hrest, index, hindex, c, column, hfield, rfl⟩
    split at hindex
    · next hdigits =>
      cases hindex
      exact ⟨digits, c, column, hrest, hdigits, hfield, rfl⟩
    · cases hindex
  · rintro ⟨digits, c, column, hrest, hdigits, hfield, rfl⟩
    exact ⟨digits, hrest, _, if_pos hdigits, c, column, hfield, rfl⟩

/-- A field that is found is the name of one entry, an underscore and the key of its column. -/
theorem of_ofField?_eq_some {field : Text} {c : Collection} {column : Nat}
    (h : Collection.ofField? field = some (c, column)) :
    ∃ col, c.columns[column]? = some col ∧ field = c.singular ++ '_' :: col.key := by
  obtain ⟨c', _, hfound⟩ := List.exists_of_findSome?_eq_some h
  obtain ⟨column', hcolumn, heq⟩ := Option.map_eq_some_iff.1 hfound
  cases heq
  obtain ⟨key, hkey, hindex⟩ := Option.bind_eq_some_iff.1 hcolumn
  obtain ⟨hlt, hcol, _⟩ := List.findIdx?_eq_some_iff_getElem.1 hindex
  refine ⟨c.columns[column], List.getElem?_eq_getElem hlt, ?_⟩
  rw [Text.stripPrefix?_eq_some.1 hkey, ← of_decide_eq_true hcol]
  simp

theorem of_ofPlural?_eq_some {n : Text} {c : Collection} (h : Collection.ofPlural? n = some c) :
    n = c.plural := by
  have := List.find?_some h
  exact (of_decide_eq_true this).symm

theorem isSome_amountColumn? {c : Collection} :
    c.amountColumn?.isSome = true ↔ ∃ col ∈ c.columns, col.key = "AMOUNT".toList := by
  rw [Collection.amountColumn?, Collection.columnIndex?, List.findIdx?_isSome, List.any_eq_true]
  simp only [decide_eq_true_eq]

theorem denotes_of_ofTableName? {n : Text} {p : Placeholder} (h : ofTableName? n = some p) :
    Denotes n p := by
  simp only [ofTableName?, Option.bind_eq_bind, Option.bind_eq_some_iff,
    Text.stripSuffix?_eq_some, Option.pure_def, Option.some.injEq] at h
  obtain ⟨plural, rfl, c, hc, rfl⟩ := h
  rw [of_ofPlural?_eq_some hc]
  exact .table c

theorem denotes_of_ofTotalName? {n : Text} {p : Placeholder} (h : ofTotalName? n = some p) :
    Denotes n p := by
  simp only [ofTotalName?, Option.bind_eq_bind, Option.bind_eq_some_iff,
    Text.stripSuffix?_eq_some, Text.stripPrefix?_eq_some] at h
  obtain ⟨rest, rfl, plural, rfl, c, hc, h⟩ := h
  split at h
  · next hamount =>
    obtain ⟨col, hcol, hkey⟩ := isSome_amountColumn?.1 hamount
    cases h
    rw [of_ofPlural?_eq_some hc, ← List.append_assoc]
    exact .total hcol hkey
  · cases h

theorem denotes_of_ofCountName? {n : Text} {p : Placeholder} (h : ofCountName? n = some p) :
    Denotes n p := by
  simp only [ofCountName?, Option.bind_eq_bind, Option.bind_eq_some_iff,
    Text.stripSuffix?_eq_some, Option.pure_def, Option.some.injEq] at h
  obtain ⟨plural, rfl, c, hc, rfl⟩ := h
  rw [of_ofPlural?_eq_some hc]
  exact .count c

theorem denotes_of_ofPlainName? {n : Text} {p : Placeholder} (h : ofPlainName? n = some p) :
    Denotes n p := by
  simp only [ofPlainName?, Option.or_eq_some_iff, Option.map_eq_some_iff] at h
  rcases h with h | ⟨_, h | ⟨_, h | ⟨_, ⟨f, hf, rfl⟩ | ⟨_, f, hf, rfl⟩⟩⟩⟩
  · exact denotes_of_ofTableName? h
  · exact denotes_of_ofTotalName? h
  · exact denotes_of_ofCountName? h
  · have hname := List.find?_some hf
    exact of_decide_eq_true hname ▸ .scalar f
  · have hname := List.find?_some hf
    exact of_decide_eq_true hname ▸ .current f

theorem denotes_of_ofName? {n : Text} {p : Placeholder} (h : ofName? n = some p) :
    Denotes n p := by
  rw [ofName?] at h
  split at h
  · split at h
    · next field rest hbreak =>
      obtain ⟨digits, c, column, rfl, hdigits, hfield, rfl⟩ := ofCellName?_eq_some.1 h
      obtain ⟨col, hcol, rfl⟩ := of_ofField?_eq_some hfield
      rw [Text.eq_append_of_breakOn? hbreak]
      simpa using Denotes.cell hcol hdigits
    · exact denotes_of_ofPlainName? h
  · cases h

theorem ofName?_cell {c : Collection} {column : Nat} {col : Column} {digits : Text}
    (hcol : c.columns[column]? = some col) (hdigits : Text.isDigits digits = true) :
    ofName? (c.singular ++ '_' :: col.key ++ '[' :: digits ++ [']'])
      = some (.cell c column (min (Text.digitsValue digits) 18446744073709551615)) := by
  obtain ⟨hfield, hname, hbracket⟩ := ofField?_of_column hcol
  have hall : digits.all isNameChar = true := by
    rw [Text.isDigits, Bool.and_eq_true] at hdigits
    exact List.all_eq_true.2 fun d hd => isNameChar_of_isDigit (List.all_eq_true.1 hdigits.2 d hd)
  have hbreak : Text.breakOn? ['[']
      (c.singular ++ '_' :: col.key ++ '[' :: digits ++ [']'])
        = some (c.singular ++ '_' :: col.key, digits ++ [']']) := by
    simpa using Text.breakOn?_append [] (digits ++ [']']) hbracket
  have hnames : (c.singular ++ '_' :: col.key ++ '[' :: digits ++ [']']).all isNameChar = true := by
    rw [List.all_append, List.all_append, hname, List.all_cons, hall]
    decide
  rw [ofName?, if_pos hnames, hbreak]
  exact ofCellName?_eq_some.2 ⟨digits, c, column, rfl, hdigits, hfield, rfl⟩

/-- **The reader accepts the names of the grammar and no others.** -/
theorem ofName?_eq_some_iff {n : Text} {p : Placeholder} : ofName? n = some p ↔ Denotes n p := by
  refine ⟨denotes_of_ofName?, fun h => ?_⟩
  cases h with
  | cell hcol hdigits => exact ofName?_cell hcol hdigits
  | table c => exact ofName?_table c
  | total hcol hkey => exact ofName?_total (isSome_amountColumn?.2 ⟨_, hcol, hkey⟩)
  | count c => exact ofName?_count c
  | scalar f => exact ofName?_scalar f
  | current f => exact ofName?_current f

/-- **A word names one placeholder only.** -/
theorem Denotes.unique {n : Text} {p p' : Placeholder} (h : Denotes n p) (h' : Denotes n p') :
    p = p' :=
  Option.some.inj ((ofName?_eq_some_iff.2 h).symm.trans (ofName?_eq_some_iff.2 h'))

/-- A name has no braces and no tildes. -/
theorem Denotes.notMem {n : Text} {p : Placeholder} (h : Denotes n p) {c : Char}
    (hc : isNameChar c = false) : c ∉ n := by
  have hname := ofName?_eq_some_iff.2 h
  rw [ofName?] at hname
  split at hname
  · next hall => exact fun hmem => Bool.eq_false_iff.1 hc (List.all_eq_true.1 hall c hmem)
  · cases hname

end Placeholder

end Conveyance
