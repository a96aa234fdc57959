import Conveyance.Proofs.Markup.Coherent
import Conveyance.Proofs.Markup.RowInk

/-!
# Proofs/Markup/WellFormed — the shape of every block

Blocks are laid out without a second look at them, so their shape is the formatter's to keep: a
heading is one line, no line of a paragraph is blank or a row, and every row of a table has a cell.
Between any two pieces the formatter is `Coherent` and **holds whole lines only** (`OneLine`); the
open frames change only where it holds nothing at all.  So every block that it gives out is
`Block.WellFormed` (`formatBlocks_wellFormed`).
-/

namespace Conveyance

/-! ## Runs within a line -/

/-- A piece that does not go on over the end of a line. -/
def Piece.OneLine : Piece → Prop
  | text run => '\n' ∉ run
  | _ => True

/-- **A run of plain text ends with its line.** -/
theorem Text.oneLine_of_mem_pieces {t : Text} {p : Piece} (h : p ∈ pieces t) : p.OneLine := by
  fun_induction pieces t with
  | case1 => cases h
  | case2 t ih =>
    rcases List.mem_cons.1 h with rfl | h
    · trivial
    · exact ih h
  | case3 c t _ tag rest _ _ ih =>
    rcases List.mem_cons.1 h with rfl | h
    · trivial
    · exact ih h
  | case4 c t hc _ ih =>
    rcases List.mem_cons.1 h with rfl | h
    · intro hmem
      rcases List.mem_cons.1 hmem with hmem | hmem
      · exact hc hmem.symm
      · exact absurd (List.all_eq_true.1 List.all_takeWhile _ hmem) (by decide)
    · exact ih h

theorem mem_of_headingMarker?_eq_some {run rest : Text} {level : Nat}
    (h : headingMarker? run = some (level, rest)) {c : Char} (hc : c ∈ rest) : c ∈ run := by
  simp only [headingMarker?] at h
  split at h
  · obtain ⟨-, rfl⟩ := Prod.mk.inj (Option.some.inj h)
    exact List.dropWhile_subset _ (List.dropWhile_subset _ (List.dropWhile_subset _ hc))
  · cases h

/-! ## Blocks -/

/-- **A block of the shape that its kind promises.** -/
def Block.WellFormed (b : Block) : Prop :=
  match b.kind with
  | .heading level =>
    (1 ≤ level ∧ level ≤ 3) ∧ '\n' ∉ b.text ∧ Text.trim b.text = b.text
  | .paragraph =>
    b.text ≠ [] ∧
      ∀ line ∈ Text.splitOn '\n' b.text, Text.allBlank line = false ∧ Row.isRow line = false
  | .lineBreak => b.text = []
  | .table header rows =>
    header :: rows = (Text.splitOn '\n' b.text).map Row.splitCells ∧
      (∀ cells ∈ header :: rows, cells ≠ []) ∧
      ∀ line ∈ Text.splitOn '\n' b.text, Row.isRow line = true ∧ Row.isSeparator line = false

theorem Row.splitCells_ne_nil (line : Text) : splitCells line ≠ [] := by
  rw [splitCells]
  exact fun h => cut_ne_nil _ (List.map_eq_nil_iff.1 h)

namespace Formatter

/-! ## Lines -/

/-- The lines that the formatter holds, the current one first. -/
def lines (s : Formatter) : List Text := s.line :: (s.paragraph ++ s.table)

/-- **What the formatter holds are lines**: none of them goes on over a newline. -/
def OneLine (s : Formatter) : Prop := ∀ line ∈ s.lines, '\n' ∉ line

theorem OneLine.init : OneLine {} := by simp [OneLine, lines]

theorem OneLine.of_subset {s s' : Formatter} (h : s.OneLine) {line : Text} (hline : '\n' ∉ line)
    (hlines : s'.lines ⊆ line :: s.lines) : s'.OneLine := by
  intro l hl
  rcases List.mem_cons.1 (hlines hl) with rfl | hl
  · exact hline
  · exact h l hl

theorem OneLine.of_closed {s : Formatter} (h : s.Closed) (hline : s.line = []) : s.OneLine := by
  simp [OneLine, lines, h.1, h.2, hline]

/-- The line that is taken is the only one that is new. -/
theorem lines_takeLine (s : Formatter) (line : Text) :
    (s.takeLine line).2.lines ⊆ line :: s.lines := by
  intro l hl
  have hl : l = line ∨ l = s.line ∨ l ∈ s.paragraph ∨ l ∈ s.table := by
    rw [takeLine] at hl
    split at hl
    · split at hl <;> grind [lines]
    · grind [lines]
  simpa [lines] using hl

theorem OneLine.endLine {s : Formatter} (h : s.OneLine) : s.endLine.2.OneLine := by
  have hline : '\n' ∉ s.line := h s.line List.mem_cons_self
  have hempty : OneLine { s with line := [] } :=
    have hnil : '\n' ∉ ([] : Text) := List.not_mem_nil
    h.of_subset hnil (List.cons_subset_cons _ (List.subset_cons_self _ _))
  rw [Formatter.endLine]
  split
  · split
    · exact hempty
    · exact .of_closed ⟨rfl, rfl⟩ rfl
  · exact hempty.of_subset hline (lines_takeLine _ _)

theorem OneLine.takeNewline {s : Formatter} (h : s.OneLine) : s.takeNewline.2.OneLine := by
  rw [Formatter.takeNewline]
  split
  · exact .of_closed ⟨rfl, rfl⟩ rfl
  · exact h.endLine

theorem OneLine.takeTag {s : Formatter} (h : s.OneLine) (g : Tag) : (s.takeTag g).2.OneLine := by
  by_cases hmove : g.move s.frames = s.frames
  · rw [takeTag_of_move_eq hmove]
    exact h
  · rw [takeTag_of_move_ne hmove]
    exact .of_closed (closed_closeInline s) (line_closeInline s)

theorem OneLine.takeText {s : Formatter} (h : s.OneLine) {run : Text} (hrun : '\n' ∉ run) :
    (s.takeText run).OneLine := by
  have hline : '\n' ∉ s.line := h s.line List.mem_cons_self
  have hlines : ∀ line : Text, '\n' ∉ line → ∀ s' : Formatter,
      s'.lines = line :: (s.paragraph ++ s.table) → s'.OneLine := by
    intro line hline s' hs'
    refine h.of_subset hline ?_
    rw [hs']
    exact List.cons_subset_cons _ (List.subset_cons_self _ _)
  simp only [Formatter.takeText]
  split
  · next level rest hopens =>
    refine hlines rest (fun hmem => ?_) _ rfl
    split at hopens
    · cases hopens
    · split at hopens
      · exact hrun (mem_of_headingMarker?_eq_some hopens hmem)
      · cases hopens
  · refine hlines (s.line ++ run) (fun hmem => ?_) _ rfl
    exact (List.mem_append.1 hmem).elim hline hrun

/-- **Every step keeps lines lines.** -/
theorem OneLine.step {s : Formatter} (h : s.OneLine) :
    ∀ {p : Piece}, p.OneLine → (s.step p).2.OneLine
  | .newline, _ => h.takeNewline
  | .tag g, _ => h.takeTag g
  | .text _, hrun => h.takeText hrun

/-- **What holds between two pieces of a text.** -/
structure Sound (s : Formatter) : Prop where
  coherent : s.Coherent
  oneLine : s.OneLine

theorem Sound.init : Sound {} := ⟨.init, .init⟩

theorem Sound.step {s : Formatter} (h : s.Sound) {p : Piece} (hp : p.OneLine) :
    (s.step p).2.Sound :=
  ⟨h.coherent.step p, h.oneLine.step hp⟩

/-- The current line may end at any place. -/
theorem Sound.cutLine {s : Formatter} (h : s.Sound) : Sound { s with line := [] } :=
  have hnil : '\n' ∉ ([] : Text) := List.not_mem_nil
  ⟨h.coherent.congr rfl rfl rfl rfl,
    h.oneLine.of_subset hnil (List.cons_subset_cons _ (List.subset_cons_self _ _))⟩

theorem Sound.takeLine {s : Formatter} (h : s.Sound) {line : Text} (hline : '\n' ∉ line)
    (hblank : Text.allBlank line = false) : (s.takeLine line).2.Sound :=
  ⟨h.coherent.takeLine hblank, h.oneLine.of_subset hline (lines_takeLine s line)⟩

/-! ## What ends is well-formed -/

variable {s : Formatter}

/-- The lines of a paragraph are the lines of its block. -/
theorem Sound.splitOn_paragraph (h : s.Sound) (hne : s.paragraph ≠ []) :
    Text.splitOn '\n' (Text.join ['\n'] s.paragraph) = s.paragraph :=
  Text.splitOn_join hne fun line hline =>
    h.oneLine line (List.mem_cons_of_mem _ (List.mem_append_left _ hline))

theorem Sound.splitOn_table (h : s.Sound) (hne : s.table ≠ []) :
    Text.splitOn '\n' (Text.join ['\n'] s.table) = s.table :=
  Text.splitOn_join hne fun line hline =>
    h.oneLine line (List.mem_cons_of_mem _ (List.mem_append_right _ hline))

theorem Sound.wellFormed_paragraphBlock (h : s.Sound) : ∀ b ∈ s.paragraphBlock, b.WellFormed := by
  intro b hb
  rw [paragraphBlock] at hb
  split at hb
  · cases hb
  · next hne =>
    have hlines := h.splitOn_paragraph hne
    rw [List.mem_singleton.1 hb]
    refine ⟨fun hnil => ?_, fun line hline => h.coherent.paragraph line (hlines ▸ hline)⟩
    -- a paragraph without text would be one empty line, and no line of it is empty
    have hnil : Text.join ['\n'] s.paragraph = [] := hnil
    have hmem : ([] : Text) ∈ s.paragraph := by
      rw [← hlines, hnil]
      exact List.mem_singleton_self _
    exact absurd (h.coherent.paragraph [] hmem).1 (by decide)

theorem Sound.wellFormed_tableBlock (h : s.Sound) : ∀ b ∈ s.tableBlock, b.WellFormed := by
  intro b hb
  rw [tableBlock] at hb
  split at hb
  · cases hb
  · next header rows htable =>
    have hlines := h.splitOn_table (by rw [htable]; exact List.cons_ne_nil header rows)
    rw [htable] at hlines
    rw [List.mem_singleton.1 hb]
    simp only [Block.WellFormed, block, hlines]
    refine ⟨rfl, fun cells hcells => ?_, fun line hline => h.coherent.table line (htable ▸ hline)⟩
    rw [← List.map_cons] at hcells
    obtain ⟨line, _, rfl⟩ := List.mem_map.1 hcells
    exact Row.splitCells_ne_nil line

theorem Sound.wellFormed_closeBuffers (h : s.Sound) :
    ∀ b ∈ s.paragraphBlock ++ s.tableBlock, b.WellFormed :=
  List.forall_mem_append.2 ⟨h.wellFormed_paragraphBlock, h.wellFormed_tableBlock⟩

theorem Sound.wellFormed_takeLine (h : s.Sound) (line : Text) :
    ∀ b ∈ (s.takeLine line).1, b.WellFormed := by
  rw [Formatter.takeLine]
  split
  · exact h.wellFormed_paragraphBlock
  · exact h.wellFormed_tableBlock

/-- A heading has one of three levels, and its text is the rest of one line. -/
theorem Sound.wellFormed_closeHeading (h : s.Sound) {level : Nat}
    (hmode : s.mode = .heading level) : ∀ b ∈ (s.closeHeading level).1, b.WellFormed := by
  refine List.forall_mem_append.2 ⟨h.wellFormed_closeBuffers, fun b hb => ?_⟩
  rw [List.mem_singleton.1 hb]
  refine ⟨?_, fun hmem => h.oneLine s.line List.mem_cons_self ?_, Text.trim_trim s.line⟩
  · rcases h.coherent.mode with ⟨l, hl, hlevel⟩ | henclosing
    · obtain rfl := LineMode.heading.inj (hmode.symm.trans hl)
      exact hlevel
    · rw [hmode, enclosing] at henclosing
      split at henclosing <;> cases henclosing
  · exact List.dropWhile_subset _ ((List.rdropWhile_prefix Text.isBlank _).subset hmem)

theorem Sound.wellFormed_closeInline (h : s.Sound) : ∀ b ∈ s.closeInline.1, b.WellFormed := by
  rw [closeInline]
  split
  · next level hmode => exact h.wellFormed_closeHeading hmode
  · split
    · exact h.cutLine.wellFormed_closeBuffers
    · next hblank =>
      have hline : '\n' ∉ s.line := h.oneLine s.line List.mem_cons_self
      exact List.forall_mem_append.2 ⟨h.cutLine.wellFormed_takeLine s.line,
        (h.cutLine.takeLine hline (Bool.eq_false_iff.2 hblank)).wellFormed_closeBuffers⟩

theorem Sound.wellFormed_endLine (h : s.Sound) : ∀ b ∈ s.endLine.1, b.WellFormed := by
  rw [Formatter.endLine]
  split
  · split
    · exact fun b hb => absurd hb List.not_mem_nil
    · refine List.forall_mem_append.2 ⟨h.wellFormed_closeBuffers, fun b hb => ?_⟩
      split at hb
      · rw [List.mem_singleton.1 hb]
        rfl
      · cases hb
  · exact h.cutLine.wellFormed_takeLine s.line

/-- **Every step gives out well-formed blocks.** -/
theorem Sound.wellFormed_step (h : s.Sound) (p : Piece) : ∀ b ∈ (s.step p).1, b.WellFormed := by
  rcases p with _ | g | run
  · rw [Formatter.step, Formatter.takeNewline]
    split
    · next level hmode => exact h.wellFormed_closeHeading hmode
    · exact h.wellFormed_endLine
  · rw [Formatter.step]
    by_cases hmove : g.move s.frames = s.frames
    · rw [takeTag_of_move_eq hmove]
      exact fun b hb => absurd hb List.not_mem_nil
    · rw [takeTag_of_move_ne hmove]
      exact h.wellFormed_closeInline
  · exact fun b hb => absurd hb List.not_mem_nil

/-! ## The open frames -/

/-- The end of a line leaves the open frames as they are. -/
theorem frames_takeNewline (s : Formatter) : s.takeNewline.2.frames = s.frames := by
  rw [takeNewline]
  split
  · rfl
  · change s.endLine.2.frames = s.frames
    rw [endLine]
    split
    · split <;> rfl
    · exact frames_takeLine _ _

theorem frames_takeText (s : Formatter) (run : Text) : (s.takeText run).frames = s.frames := by
  simp only [takeText]
  split <;> rfl

/-- **The open frames change only where nothing is held.** -/
theorem closed_step_of_frames_ne {p : Piece} (h : (s.step p).2.frames ≠ s.frames) :
    (s.step p).2.Closed ∧ (s.step p).2.line = [] := by
  rcases p with _ | g | run
  · exact absurd s.frames_takeNewline h
  · have hmove : g.move s.frames ≠ s.frames := by
      intro hmove
      rw [Formatter.step, takeTag_of_move_eq hmove] at h
      exact h rfl
    rw [Formatter.step, takeTag_of_move_ne hmove]
    exact ⟨closed_closeInline s, line_closeInline s⟩
  · exact absurd (s.frames_takeText run) h

/-! ## Runs -/

/-- The state after some pieces. -/
def after (s : Formatter) (ps : List Piece) : Formatter := ps.foldl (fun s p => (s.step p).2) s

theorem Sound.after (h : s.Sound) {ps : List Piece} (hps : ∀ p ∈ ps, p.OneLine) :
    (s.after ps).Sound := by
  induction ps generalizing s with
  | nil => exact h
  | cons p ps ih =>
    exact ih (h.step (hps p List.mem_cons_self)) fun q hq => hps q (List.mem_cons_of_mem p hq)

/-- **A run gives out well-formed blocks.** -/
theorem Sound.wellFormed_run (h : s.Sound) {ps : List Piece} (hps : ∀ p ∈ ps, p.OneLine) :
    ∀ b ∈ s.run ps, b.WellFormed := by
  induction ps generalizing s with
  | nil => exact h.wellFormed_closeInline
  | cons p ps ih =>
    rw [run, List.forall_mem_append]
    exact ⟨h.wellFormed_step p, ih (h.step (hps p List.mem_cons_self))
      fun q hq => hps q (List.mem_cons_of_mem p hq)⟩

/-- **The states that reading a text comes through.** -/
def Reached (t : Text) (s : Formatter) : Prop :=
  ∃ done rest, Text.pieces (Text.unixLines t) = done ++ rest ∧ s = ({} : Formatter).after done

theorem Reached.sound {t : Text} (h : s.Reached t) : s.Sound := by
  obtain ⟨done, rest, hpieces, rfl⟩ := h
  refine Sound.init.after fun p hp => Text.oneLine_of_mem_pieces (t := Text.unixLines t) ?_
  rw [hpieces]
  exact List.mem_append_left rest hp

end Formatter

theorem wellFormed_of_mem_formatBlocks {t : Text} {b : Block} (hb : b ∈ formatBlocks t) :
    b.WellFormed :=
  Formatter.Sound.init.wellFormed_run (fun _ => Text.oneLine_of_mem_pieces) b hb

/-- **The formatter keeps its invariant on every text**, and every block that it gives out is
well-formed.  Where the open frames change, or the text ends, nothing is held any more. -/
theorem formatBlocks_wellFormed (t : Text) :
    (∀ s : Formatter, s.Reached t → s.Coherent ∧
      (∀ p, (s.step p).2.frames ≠ s.frames → (s.step p).2.Closed ∧ (s.step p).2.line = []) ∧
      s.closeInline.2.Closed ∧ s.closeInline.2.line = []) ∧
    ∀ b ∈ formatBlocks t, b.WellFormed := by
  refine ⟨fun s hs => ⟨hs.sound.coherent, fun p => s.closed_step_of_frames_ne, ?_⟩,
    fun b => wellFormed_of_mem_formatBlocks⟩
  exact ⟨s.closed_closeInline, s.line_closeInline⟩

end Conveyance
