import Conveyance.Proofs.Markup.WellFormed

/-!
# Proofs/Markup/TableBlock — a table block holds the cells of its lines

Every table block that the formatter gives out **was read from the lines of its text**: the first
line is the header, all lines are rows, and nothing else goes into a cell
(`fromLines_of_mem_formatBlocks`).  So its text holds at least the ink of its cells written again
(`length_ink_table_le`).
-/

namespace Conveyance

namespace Block

/-- **The cells of a table block are those of its lines.** -/
def FromLines (b : Block) : Prop :=
  ∀ header rows, b.kind = .table header rows → ∃ line lines,
    b.text = Text.join ['\n'] (line :: lines) ∧ header = Row.splitCells line ∧
      rows = lines.map Row.splitCells ∧ ∀ l ∈ line :: lines, Row.isRow l = true

/-- A well-formed table is the cells of the lines of its text. -/
theorem WellFormed.fromLines {b : Block} (h : b.WellFormed) : b.FromLines := by
  intro header rows hkind
  rw [WellFormed, hkind] at h
  obtain ⟨hcells, -, hrows⟩ := h
  rcases hlines : Text.splitOn '\n' b.text with _ | ⟨line, lines⟩
  · exact absurd hlines (Text.splitOn_ne_nil '\n' b.text)
  · rw [hlines] at hcells hrows
    obtain ⟨rfl, rfl⟩ := List.cons.inj hcells
    refine ⟨line, lines, ?_, rfl, rfl, fun l hl => (hrows l hl).1⟩
    rw [← hlines, Text.join_splitOn]

/-- A table block's text holds at least the ink of its cells written again. -/
theorem length_ink_table_le {b : Block} (hb : b.FromLines) {header : List Text}
    {rows : List (List Text)} (hkind : b.kind = .table header rows) :
    ((header :: rows).flatMap fun cells => Text.ink (Row.markup cells)).length
      ≤ (Text.ink b.text).length := by
  obtain ⟨line, lines, htext, rfl, rfl, hrows⟩ := hb header rows hkind
  rw [htext, Text.ink_join_newline, ← List.map_cons, List.flatMap_map]
  exact Text.length_flatMap_le fun l hl => Row.length_ink_markup_splitCells_le (hrows l hl)

end Block

/-- **Every table block of a text was read from its lines.** -/
theorem fromLines_of_mem_formatBlocks {t : Text} {b : Block} (hb : b ∈ formatBlocks t) :
    b.FromLines :=
  (wellFormed_of_mem_formatBlocks hb).fromLines

end Conveyance
