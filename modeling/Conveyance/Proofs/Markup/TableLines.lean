import Conveyance.Proofs.Markup.Lines
import Conveyance.Proofs.Markup.RowCodec

/-!
# Proofs/Markup/TableLines — the tables that lines make

In a text without tags and headings, a table is made of **the rows that stand directly below one
another**: `Row.tables` reads them off the lines, and `tables_formatBlocks` says that the table
blocks of the text are these.  Rows alone make one block and nothing else (`runLines_rows`).
-/

namespace Conveyance

/-! ## Rows that stand together -/

/-- The header and the rows of a table. -/
def Block.table? (b : Block) : Option (List Text × List (List Text)) :=
  match b.kind with
  | .table header rows => some (header, rows)
  | _ => none

namespace Row

/-- The table that rows make, if there are any. -/
def table (rows : List Text) : List (List Text × List (List Text)) :=
  match rows with
  | [] => []
  | header :: rows => [(splitCells header, rows.map splitCells)]

/-- **The tables of lines**: rows that stand directly below one another, without separators.  The
lines follow the rows of the table that is open. -/
def tables (rows : List Text) : List Text → List (List Text × List (List Text))
  | [] => table rows
  | line :: lines =>
    if isRow line then tables (if isSeparator line then rows else rows ++ [line]) lines
    else table rows ++ tables [] lines

theorem tables_cons_of_isRow {line : Text} (h : isRow line = true) (rows lines : List Text) :
    tables rows (line :: lines)
      = tables (if isSeparator line then rows else rows ++ [line]) lines := by
  rw [tables, if_pos h]

theorem tables_cons_of_not_isRow {line : Text} (h : isRow line = false) (rows lines : List Text) :
    tables rows (line :: lines) = table rows ++ tables [] lines := by
  rw [tables, if_neg (by simp [h])]

/-- Rows join the table that is open. -/
theorem tables_append_of_isRow {before : List Text}
    (h : ∀ line ∈ before, isRow line = true ∧ isSeparator line = false) (rows lines : List Text) :
    tables rows (before ++ lines) = tables (rows ++ before) lines := by
  induction before generalizing rows with
  | nil => rw [List.nil_append, List.append_nil]
  | cons line before ih =>
    obtain ⟨hrow, hseparator⟩ := h line List.mem_cons_self
    rw [List.cons_append, tables_cons_of_isRow hrow, hseparator,
      ih fun l hl => h l (List.mem_cons_of_mem line hl)]
    simp

/-- **Lines that are no rows end the table that is open.** -/
theorem tables_append_of_not_isRow {before : List Text} (hne : before ≠ [])
    (h : ∀ line ∈ before, isRow line = false) (rows lines : List Text) :
    tables rows (before ++ lines) = table rows ++ tables [] lines := by
  induction before generalizing rows with
  | nil => exact absurd rfl hne
  | cons line before ih =>
    rw [List.cons_append, tables_cons_of_not_isRow (h line List.mem_cons_self)]
    rcases before with _ | ⟨next, before⟩
    · rfl
    · rw [ih (List.cons_ne_nil next before) fun l hl => h l (List.mem_cons_of_mem line hl)]
      rfl

/-- A row holds a bar. -/
theorem isRow_of_notMem {line : Text} (h : '|' ∉ line) : isRow line = false := by
  refine Bool.eq_false_iff.2 fun hrow => ?_
  obtain ⟨inner, hinner, _⟩ := exists_inner_of_isRow hrow
  have hink : '|' ∈ Text.ink line := by
    rw [← Text.ink_trim, hinner, Text.ink_cons]
    simp [Text.isBlank]
  exact h (List.mem_filter.1 hink).1

end Row

/-! ## What the formatter makes of them -/

namespace Formatter

theorem tables_tableBlock (s : Formatter) :
    s.tableBlock.filterMap Block.table? = Row.table s.table := by
  rw [tableBlock]
  split
  · next h => rw [h]; rfl
  · next h => rw [h]; rfl

theorem tables_paragraphBlock (s : Formatter) : s.paragraphBlock.filterMap Block.table? = [] := by
  rw [paragraphBlock]
  split
  · rfl
  · rfl

theorem tables_closeBuffers (s : Formatter) :
    s.closeBuffers.1.filterMap Block.table? = Row.table s.table := by
  rw [closeBuffers, List.filterMap_append, tables_paragraphBlock, tables_tableBlock,
    List.nil_append]

/-- A row goes into the table that is open. -/
theorem tables_lineStep_of_isRow {s : Formatter} {line : Text} (hrow : Row.isRow line = true) :
    (s.lineStep line).1.filterMap Block.table? = [] ∧
      (s.lineStep line).2.table
        = if Row.isSeparator line then s.table else s.table ++ [line] := by
  rw [lineStep, endLine, Row.allBlank_of_isRow hrow, takeLine, if_pos hrow]
  exact ⟨tables_paragraphBlock _, rfl⟩

/-- Any other line ends the table that is open. -/
theorem AtLineStart.tables_lineStep {s : Formatter} (h : s.AtLineStart) {line : Text}
    (hrow : Row.isRow line = false) :
    (s.lineStep line).1.filterMap Block.table? = Row.table s.table ∧
      (s.lineStep line).2.table = [] := by
  rw [Formatter.lineStep, endLine, takeLine, hrow]
  simp only [h.lineHasTag]
  split
  · refine ⟨?_, rfl⟩
    have hblank : ∀ b : Formatter,
        (if 0 < s.blankRun then [b.block .lineBreak []] else []).filterMap Block.table? = [] := by
      intro b
      split
      · rfl
      · rfl
    exact (List.filterMap_append ..).trans (by rw [tables_closeBuffers, hblank, List.append_nil])
  · exact ⟨tables_tableBlock _, rfl⟩

/-- The end of the text ends the last line and the table that is open after it. -/
theorem AtLineStart.tables_finish {s : Formatter} (h : s.AtLineStart) (line : Text) :
    { s with line := line }.finish.filterMap Block.table?
      = (s.lineStep line).1.filterMap Block.table? ++ Row.table (s.lineStep line).2.table := by
  rw [finish, closeInline]
  simp only [h.mode]
  rw [List.filterMap_append, tables_closeBuffers]
  by_cases hblank : Text.allBlank line = true
  · have hrow : Row.isRow line = false := by
      refine Bool.eq_false_iff.2 fun hrow => ?_
      rw [Row.allBlank_of_isRow hrow] at hblank
      cases hblank
    obtain ⟨hblocks, htable⟩ := h.tables_lineStep hrow
    rw [hblocks, htable, if_pos hblank]
    exact (List.append_nil _).symm
  · rw [Formatter.lineStep, endLine, if_neg hblank, if_neg hblank, h.mode]

/-- **The tables of a run over lines.** -/
theorem AtLineStart.tables_runLines {lines : List Text} (hne : lines ≠ []) {s : Formatter}
    (h : s.AtLineStart) :
    (s.runLines lines).filterMap Block.table? = Row.tables s.table lines := by
  induction lines generalizing s with
  | nil => exact absurd rfl hne
  | cons line lines ih =>
    have hrest : (s.runLines (line :: lines)).filterMap Block.table?
        = (s.lineStep line).1.filterMap Block.table?
          ++ Row.tables (s.lineStep line).2.table lines := by
      rcases lines with _ | ⟨next, lines⟩
      · exact h.tables_finish line
      · rw [runLines, List.filterMap_append, ih (List.cons_ne_nil next lines) (h.lineStep line)]
    cases hrow : Row.isRow line with
    | true =>
      obtain ⟨hblocks, htable⟩ := tables_lineStep_of_isRow (s := s) hrow
      rw [hrest, hblocks, htable, Row.tables_cons_of_isRow hrow, List.nil_append]
    | false =>
      obtain ⟨hblocks, htable⟩ := h.tables_lineStep hrow
      rw [hrest, hblocks, htable, Row.tables_cons_of_not_isRow hrow]

/-- **Rows directly below one another are one table.** -/
theorem AtLineStart.runLines_rows {lines : List Text} (hne : lines ≠ []) {s : Formatter}
    (h : s.AtLineStart) (hparagraph : s.paragraph = [])
    (hrows : ∀ line ∈ lines, Row.isRow line = true ∧ Row.isSeparator line = false) :
    s.runLines lines = { s with table := s.table ++ lines }.tableBlock := by
  induction lines generalizing s with
  | nil => exact absurd rfl hne
  | cons line lines ih =>
    obtain ⟨hrow, hseparator⟩ := hrows line List.mem_cons_self
    have hblank := Row.allBlank_of_isRow hrow
    have hstep : s.lineStep line = ([], { table := s.table ++ [line] }) := by
      rw [h.eq, hparagraph, Formatter.lineStep, endLine, hblank, takeLine, if_pos hrow, hseparator]
      rfl
    rcases lines with _ | ⟨next, lines⟩
    · rw [runLines, finish, closeInline, h.eq, hparagraph]
      simp only [hblank, takeLine, if_pos hrow, hseparator]
      rfl
    · have ih := ih (List.cons_ne_nil next lines) (h.lineStep line) (by rw [hstep])
        fun l hl => hrows l (List.mem_cons_of_mem line hl)
      rw [runLines, ih, hstep, h.eq]
      simp [tableBlock, block, alignment]

end Formatter

/-- **The tables of a text without tags and headings.** -/
theorem tables_formatBlocks {t : Text} (htag : Text.Untagged (Text.unixLines t))
    (hmark : ∀ line ∈ Text.lines t, Text.Unmarked line) :
    (formatBlocks t).filterMap Block.table? = Row.tables [] (Text.lines t) := by
  rw [formatBlocks_eq_runLines htag hmark]
  exact Formatter.AtLineStart.init.tables_runLines (Text.splitOn_ne_nil '\n' _)

end Conveyance
