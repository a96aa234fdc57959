import Conveyance.Catalog.Collection
import Conveyance.Proofs.Markup.TableBlock
import Conveyance.Proofs.Markup.TableLines

/-!
# Proofs/Catalog/Table — a table, written and read back

A table is readable when each of its rows has a character that no separator is drawn with and its
header is not changed by writing it; **the table of a collection is** (`readable_ofCollection`),
since its header is in words and each row starts with a number.  A readable table without tags is
read back as one block (`formatBlocks_markup`), and one with a tag in a cell never is
(`untagged_of_formatBlocks`).
-/

namespace Conveyance

namespace Table

/-- **A table whose lines are rows of their own**: none looks like a separator, and the header reads
as it was written. -/
structure Readable (t : Table) : Prop where
  row : ∀ row ∈ t.header :: t.rows, ∃ cell ∈ row, ∃ c ∈ cell,
    (c ≠ '\r' ∧ c ≠ '\n') ∧ Row.isRuleChar c = false
  header : t.header.map Row.shown = t.header

/-- A table as it is read back: the cells of its rows in one line each, without blanks around them.
-/
def shown (t : Table) : List Text × List (List Text) := (t.header, t.rows.map (·.map Row.shown))

/-- No cell of a table holds a tag. -/
def Untagged (t : Table) : Prop := ∀ row ∈ t.header :: t.rows, ∀ cell ∈ row, Text.Untagged cell

variable {t : Table}

/-! ## Lines -/

theorem lines_ne_nil (t : Table) : t.lines ≠ [] := List.cons_ne_nil _ _

/-- No line of a table holds a line end. -/
theorem notMem_of_mem_lines {line : Text} (h : line ∈ t.lines) {c : Char}
    (hc : c = '\r' ∨ c = '\n') : c ∉ line := by
  obtain ⟨row, _, rfl⟩ := List.mem_map.1 h
  exact Row.notMem_markup hc row

/-- A line of a table starts with a bar. -/
theorem unmarked_of_mem_lines {line : Text} (h : line ∈ t.lines) : Text.Unmarked line := by
  obtain ⟨row, _, rfl⟩ := List.mem_map.1 h
  rw [Row.markup_eq]
  intro hhead
  cases hhead

/-- **Every line of a readable table is a row**, and none is a separator. -/
theorem Readable.isRow_of_mem_lines (ht : t.Readable) {line : Text} (h : line ∈ t.lines) :
    Row.isRow line = true ∧ Row.isSeparator line = false := by
  obtain ⟨row, hrow, rfl⟩ := List.mem_map.1 h
  obtain ⟨cell, hcell, c, hc, hline, hrule⟩ := ht.row row hrow
  exact ⟨Row.isRow_markup row, Row.isSeparator_markup hcell hc hline hrule⟩

theorem notMem_markup {c : Char} (hc : c = '\r') : c ∉ t.markup := by
  intro hmem
  rcases Text.mem_join hmem with hmem | ⟨line, hline, hmem⟩
  · rw [hc] at hmem
    simp at hmem
  · exact notMem_of_mem_lines hline (.inl hc) hmem

/-- A table that is written starts and ends with a bar. -/
theorem exists_markup_eq (t : Table) : ∃ inner, t.markup = '|' :: (inner ++ ['|']) := by
  have hjoin : ∀ (rows : List (List Text)) (row : List Text),
      ∃ inner, Text.join ['\n'] ((row :: rows).map Row.markup) = '|' :: (inner ++ ['|']) := by
    intro rows
    induction rows with
    | nil =>
      intro row
      exact ⟨Row.body row, by rw [List.map_singleton, Text.join_singleton, Row.markup_eq]⟩
    | cons next rows ih =>
      intro row
      obtain ⟨inner, hinner⟩ := ih next
      refine ⟨Row.body row ++ '|' :: '\n' :: '|' :: inner, ?_⟩
      rw [List.map_cons, List.map_cons, Text.join_cons_cons, ← List.map_cons, hinner,
        Row.markup_eq]
      simp
  exact hjoin t.rows t.header

theorem splitOn_markup (t : Table) : Text.splitOn '\n' t.markup = t.lines :=
  Text.splitOn_join t.lines_ne_nil fun _ hline => notMem_of_mem_lines hline (.inr rfl)

/-- **The lines of a table that is written are its lines.** -/
theorem lines_markup (t : Table) : Text.lines t.markup = t.lines := by
  rw [Text.lines, Text.unixLines_of_notMem (notMem_markup rfl), splitOn_markup]

/-- What follows a table on new lines follows its lines. -/
theorem lines_markup_append (t : Table) (u : Text) :
    Text.lines (t.markup ++ '\n' :: u) = t.lines ++ Text.lines u := by
  rw [Text.lines, Text.unixLines_append_of_notMem (notMem_markup rfl),
    Text.unixLines_cons (by decide), Text.splitOn_append_cons, splitOn_markup, Text.lines]

/-- **The lines of a readable table are read back.** -/
theorem Readable.table_lines (ht : t.Readable) : Row.table t.lines = [t.shown] := by
  have hcells : ∀ row ∈ t.header :: t.rows,
      Row.splitCells (Row.markup row) = row.map Row.shown := by
    intro row hrow
    obtain ⟨cell, hcell, _⟩ := ht.row row hrow
    exact Row.splitCells_markup (List.ne_nil_of_mem hcell)
  have hrows : (t.rows.map Row.markup).map Row.splitCells = t.rows.map (·.map Row.shown) := by
    rw [List.map_map]
    exact List.map_congr_left fun row hrow => hcells row (List.mem_cons_of_mem _ hrow)
  rw [lines, List.map_cons, Row.table, hcells _ List.mem_cons_self, ht.header, hrows, shown]

/-! ## Tags in cells -/

theorem isPlainChar_of_mem_tag (g : Tag) : ∀ c ∈ g.text, Row.isPlainChar c = true := by
  have hall : g.text.all Row.isPlainChar = true := by
    rcases g with (_ | _ | _) | (_ | _ | _) <;> rfl
  exact List.all_eq_true.1 hall

/-- **A tag stands in what is written exactly when it stands in a cell.** -/
theorem untagged_markup_iff : Text.Untagged t.markup ↔ t.Untagged := by
  have hsep : ∀ g : Tag, '\n' ∉ g.text := fun g =>
    Row.notMem_of_plain (isPlainChar_of_mem_tag g) rfl
  constructor
  · intro h row hrow cell hcell g hg
    have hline : g.text <:+: Row.markup row :=
      (Row.infix_markup_iff g.text_ne_nil (isPlainChar_of_mem_tag g)).2 ⟨cell, hcell, hg⟩
    exact h g (Text.infix_join_of_mem hline (List.mem_map_of_mem hrow))
  · intro h g hg
    obtain ⟨line, hline, hg⟩ := Text.infix_join g.text_ne_nil (by simp)
      (by simpa using hsep g) hg
    obtain ⟨row, hrow, rfl⟩ := List.mem_map.1 hline
    obtain ⟨cell, hcell, hg⟩ :=
      (Row.infix_markup_iff g.text_ne_nil (isPlainChar_of_mem_tag g)).1 hg
    exact h row hrow cell hcell g hg

/-- A tilde in a line stands in a cell. -/
theorem notMem_tilde_of_mem_lines (h : ∀ row ∈ t.header :: t.rows, ∀ cell ∈ row, '~' ∉ cell)
    {line : Text} (hline : line ∈ t.lines) : '~' ∉ line := by
  intro hmem
  obtain ⟨row, hrow, rfl⟩ := List.mem_map.1 hline
  obtain ⟨before, after, hsplit⟩ := List.append_of_mem hmem
  have hword : ['~'] <:+: Row.markup row := ⟨before, after, by simp [hsplit]⟩
  have hplain : ∀ c ∈ ['~'], Row.isPlainChar c = true := List.all_eq_true.1 rfl
  obtain ⟨cell, hcell, hword⟩ :=
    (Row.infix_markup_iff (List.cons_ne_nil '~' []) hplain).1 hword
  exact h row hrow cell hcell (hword.subset List.mem_cons_self)

/-! ## Read back -/

/-- **A readable table without tags is read back as one block.** -/
theorem Readable.formatBlocks_markup (ht : t.Readable) (htag : t.Untagged) :
    formatBlocks t.markup = [⟨.table t.shown.1 t.shown.2, .left, t.markup⟩] := by
  have hunix : Text.unixLines t.markup = t.markup := Text.unixLines_of_notMem (notMem_markup rfl)
  have htags : Text.Untagged (Text.unixLines t.markup) := hunix.symm ▸ untagged_markup_iff.2 htag
  have hmark : ∀ line ∈ Text.lines t.markup, Text.Unmarked line := fun line hline =>
    unmarked_of_mem_lines (t.lines_markup ▸ hline)
  have hrun := Formatter.AtLineStart.init.runLines_rows t.lines_ne_nil rfl
    fun line hline => ht.isRow_of_mem_lines hline
  rw [formatBlocks_eq_runLines htags hmark, lines_markup, hrun, List.nil_append]
  have htable : t.shown = (Row.splitCells (Row.markup t.header),
      (t.rows.map Row.markup).map Row.splitCells) := (List.cons.inj ht.table_lines).1.symm
  rw [htable]
  rfl

/-- **A table that is read back as one block has no tags.**  The block would hold the ink of the
whole table, and a tag has taken some of it away. -/
theorem Readable.untagged_of_formatBlocks (ht : t.Readable) {text : Text}
    (h : formatBlocks t.markup = [⟨.table t.shown.1 t.shown.2, .left, text⟩]) : t.Untagged := by
  refine untagged_markup_iff.1 fun g hg => ?_
  have hunix : Text.unixLines t.markup = t.markup := Text.unixLines_of_notMem (notMem_markup rfl)
  have hlost := length_ink_formatBlocks_lt (hunix.symm ▸ hg)
  have hfrom : Block.FromLines ⟨.table t.shown.1 t.shown.2, .left, text⟩ :=
    fromLines_of_mem_formatBlocks (t := t.markup) (by rw [h]; exact List.mem_singleton_self _)
  have hcells := Block.length_ink_table_le hfrom rfl
  have hrows : t.shown.1 :: t.shown.2 = (t.header :: t.rows).map (·.map Row.shown) := by
    rw [List.map_cons, ht.header, shown]
  have hsame : (Text.ink t.markup).length
      ≤ ((t.shown.1 :: t.shown.2).flatMap fun cells => Text.ink (Row.markup cells)).length := by
    rw [hrows, List.flatMap_map, markup, Text.ink_join_newline, lines, List.flatMap_map]
    refine Text.length_flatMap_le fun row _ => Nat.le_of_eq ?_
    rw [Row.length_ink_markup, Row.length_ink_markup, Row.inkLength_map Row.ink_shown]
  rw [h, hunix, List.flatMap_singleton, Block.ink, Text.inkIn, List.length_map] at hlost
  omega

/-! ## Collections -/

/-- Every table starts with the column of serial numbers. -/
theorem serial_mem_columns (c : Collection) :
    (Collection.shown "SR_NO" "Sr No", 0) ∈ columns c := by
  cases c <;> decide

/-- A header is in words. -/
theorem header_facts (c : Collection) :
    ((columns c).map (·.1.header)).map Row.shown = (columns c).map (·.1.header) ∧
      ∀ cell ∈ (columns c).map (·.1.header), '~' ∉ cell := by
  cases c <;> decide

/-- **Every entry starts with its serial number.** -/
theorem exists_serial {ctx : Context} {c : Collection} {row : List Value} (h : row ∈ c.rows ctx) :
    ∃ n, row[0]? = some (.integer n) := by
  cases c <;> obtain ⟨_, _, rfl⟩ := List.mem_mapIdx.1 h <;> exact ⟨_, rfl⟩

/-- An integer is written with a digit. -/
theorem exists_digit_mem_ofInt (n : Int) : ∃ c ∈ Text.ofInt n, c.isDigit = true := by
  obtain ⟨c, digits, hdigits⟩ :=
    List.exists_cons_of_ne_nil (Nat.toDigits_ne_nil (n := n.natAbs) (b := 10))
  have hc : c ∈ Nat.toDigits 10 n.natAbs := hdigits ▸ List.mem_cons_self
  refine ⟨c, ?_, Nat.isDigit_of_mem_toDigits (by decide) (by decide) hc⟩
  rw [Text.ofInt]
  split
  · exact List.mem_cons_of_mem '-' hc
  · exact hc

/-- No separator is drawn with digits. -/
theorem isRuleChar_of_isDigit {c : Char} (h : c.isDigit = true) :
    (c ≠ '\r' ∧ c ≠ '\n') ∧ Row.isRuleChar c = false := by
  have hne : ∀ d : Char, d.isDigit = false → c ≠ d := by
    rintro d hd rfl
    rw [h] at hd
    cases hd
  refine ⟨⟨hne _ rfl, hne _ rfl⟩, ?_⟩
  rw [Row.isRuleChar, beq_false_of_ne (hne '|' rfl), beq_false_of_ne (hne '-' rfl),
    beq_false_of_ne (hne ':' rfl), beq_false_of_ne (hne ' ' rfl)]
  rfl

/-- **The table of a collection is readable.** -/
theorem readable_ofCollection (f : Format) (ctx : Context) (c : Collection) :
    (ofCollection f ctx c).Readable where
  row := by
    intro row hrow
    rcases List.mem_cons.1 hrow with rfl | hrow
    · have hcell : "Sr No".toList ∈ (ofCollection f ctx c).header :=
        List.mem_map_of_mem (serial_mem_columns c)
      exact ⟨_, hcell, 'S', by decide, by decide, rfl⟩
    · obtain ⟨values, hvalues, rfl⟩ := List.mem_map.1 hrow
      obtain ⟨n, hn⟩ := exists_serial hvalues
      obtain ⟨d, hd, hdigit⟩ := exists_digit_mem_ofInt n
      refine ⟨_, List.mem_map_of_mem (serial_mem_columns c), d, ?_, isRuleChar_of_isDigit hdigit⟩
      rw [hn]
      exact hd
  header := header_facts c |>.1

/-- Only fields can hold tags. -/
theorem untagged_ofCollection_iff {f : Format} {ctx : Context} {c : Collection} :
    (ofCollection f ctx c).Untagged
      ↔ ∀ row ∈ (ofCollection f ctx c).rows, ∀ cell ∈ row, Text.Untagged cell := by
  refine ⟨fun h row hrow => h row (List.mem_cons_of_mem _ hrow), fun h row hrow => ?_⟩
  rcases List.mem_cons.1 hrow with rfl | hrow
  · exact fun cell hcell => Text.untagged_of_notMem ((header_facts c).2 cell hcell)
  · exact h row hrow

end Table

end Conveyance
