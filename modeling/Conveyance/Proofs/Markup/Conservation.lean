import Conveyance.Proofs.Markup.Fragment

/-!
# Proofs/Markup/Conservation — the blocks of a text hold its ink, in order and in alignment

The text of a fragment waits in the current line, then in a paragraph or a table, and leaves in a
block when something else begins.  `Formatter.held` is the ink that waits; each step **gives out
what it takes in** (`ink_step`), so the blocks of a run hold the ink of its fragments and nothing
else (`ink_run`).  Only markers of headings and separator rows are left out
(`formatBlocks_conserves_ink`).
-/

namespace Conveyance

/-- The level of a heading's line. -/
def LineMode.level? : LineMode → Option Nat
  | heading level => some level
  | _ => none

namespace Block

/-- The ink of a block, in its alignment. -/
def ink (b : Block) : AlignedText := Text.inkIn b.alignment b.text

/-- The level of a heading block. -/
def level? (b : Block) : Option Nat :=
  match b.kind with
  | .heading level => some level
  | _ => none

end Block

namespace Formatter

/-- The fragment that the current line holds. -/
def openFragment (s : Formatter) : OpenFragment :=
  { frames := s.frames, level? := s.mode.level?, text := s.line, lineHasText := s.lineHasText }

/-- The ink that waits in the paragraph and the table. -/
def held (s : Formatter) : AlignedText := (s.paragraph ++ s.table).flatMap (Text.inkIn s.alignment)

/-! ## What ends gives out its ink -/

theorem ink_paragraphBlock (s : Formatter) :
    s.paragraphBlock.flatMap Block.ink = s.paragraph.flatMap (Text.inkIn s.alignment) := by
  rw [paragraphBlock]
  split
  · next h => rw [h]; rfl
  · next h => simp [Block.ink, block, Text.inkIn_join_newline]

theorem ink_tableBlock (s : Formatter) :
    s.tableBlock.flatMap Block.ink = s.table.flatMap (Text.inkIn s.alignment) := by
  rw [tableBlock]
  split
  · next h => rw [h]; rfl
  · next h => simp only [Block.ink, block, Text.inkIn_join_newline, List.flatMap_singleton, h]

theorem ink_buffers (s : Formatter) :
    (s.paragraphBlock ++ s.tableBlock).flatMap Block.ink = s.held := by
  rw [List.flatMap_append, ink_paragraphBlock, ink_tableBlock, held, List.flatMap_append]

theorem held_of_closed {s : Formatter} (h : s.Closed) : s.held = [] := by
  rw [held, h.1, h.2]
  rfl

/-- **A line goes into the paragraph or the table**, and the other one, which goes out, held all
that waited before it. -/
theorem Coherent.ink_takeLine {s : Formatter} (hs : s.Coherent) (line : Text) :
    (s.takeLine line).1.flatMap Block.ink ++ (s.takeLine line).2.held
      = s.held ++ Fragment.kept ⟨s.alignment, none, line⟩ := by
  rw [Formatter.takeLine]
  split
  · next hrow =>
    simp only [ink_paragraphBlock, held, Fragment.kept, Fragment.isSeparator, hrow,
      Option.isNone_none, Bool.and_self, Bool.true_and]
    split
    · simp [Formatter.alignment]
    · simp [Formatter.alignment]
  · next hrow =>
    have hkept : Fragment.kept ⟨s.alignment, none, line⟩ = Text.inkIn s.alignment line := by
      simp [Fragment.kept, Fragment.isSeparator, hrow]
    simp only [ink_tableBlock, held, hkept, List.append_nil, List.flatMap_append,
      List.flatMap_singleton]
    -- the table goes out before the paragraph: one of them is empty, so this is no reordering
    rcases hs.oneOpen with h | h
    · rw [h]
      rfl
    · rw [h]
      simp [Formatter.alignment]

theorem ink_closeHeading (s : Formatter) (level : Nat) :
    (s.closeHeading level).1.flatMap Block.ink
      = s.held ++ Fragment.kept ⟨s.alignment, some level, s.line⟩ := by
  rw [closeHeading, List.flatMap_append, ink_buffers, List.flatMap_singleton, Block.ink, block,
    Text.inkIn_trim]
  rfl

theorem kept_of_allBlank {f : Fragment} (h : Text.allBlank f.text = true) : f.kept = [] := by
  rw [Fragment.kept]
  split
  · rfl
  · exact Text.inkIn_eq_nil h

theorem close_of_mode {s : Formatter} (h : ∀ level, s.mode ≠ .heading level) :
    s.openFragment.close = ⟨s.alignment, none, s.line⟩ := by
  have hlevel : s.mode.level? = none := by
    cases hm : s.mode with
    | heading level => exact absurd hm (h level)
    | normal => rfl
    | aligned a => rfl
  rw [openFragment, hlevel]
  rfl

/-- **An alignment boundary gives out all that waited and the fragment that ends there.** -/
theorem Coherent.ink_closeInline {s : Formatter} (hs : s.Coherent) :
    s.closeInline.1.flatMap Block.ink = s.held ++ s.openFragment.close.kept := by
  rw [closeInline]
  split
  · next level hmode =>
    rw [ink_closeHeading, openFragment, hmode]
    rfl
  · next hmode =>
    simp only [closeBuffers]
    rw [List.flatMap_append, ink_buffers, close_of_mode hmode]
    split
    · next hblank =>
      rw [kept_of_allBlank hblank, List.append_nil]
      rfl
    · exact (hs.congr rfl rfl rfl rfl : Coherent { s with line := [] }).ink_takeLine s.line

/-- A line that is not blank is taken, so its end gives out no more than the line that ends. -/
theorem Coherent.ink_endLine {s : Formatter} (hs : s.Coherent) :
    s.endLine.1.flatMap Block.ink ++ s.endLine.2.held
      = s.held ++ Fragment.kept ⟨s.alignment, none, s.line⟩ := by
  rw [Formatter.endLine]
  split
  · next hblank =>
    rw [kept_of_allBlank hblank, List.append_nil]
    split
    · rfl
    · simp only [closeBuffers]
      rw [held_of_closed ⟨rfl, rfl⟩, List.append_nil, List.flatMap_append, ink_buffers]
      split <;> simp [Block.ink, block, held, alignment]
  · exact (hs.congr rfl rfl rfl rfl : Coherent { s with line := [] }).ink_takeLine s.line

theorem Coherent.ink_takeNewline {s : Formatter} (hs : s.Coherent) :
    s.takeNewline.1.flatMap Block.ink ++ s.takeNewline.2.held
      = s.held ++ s.openFragment.close.kept := by
  rw [Formatter.takeNewline]
  split
  · next level hmode =>
    have hheld : (s.closeHeading level).2.held = [] := held_of_closed (closed_closeHeading s level)
    rw [openFragment, hmode, ink_closeHeading]
    exact (congrArg _ hheld).trans (List.append_nil _)
  · next hmode =>
    rw [close_of_mode hmode, ← hs.ink_endLine]
    rfl

theorem Coherent.ink_takeTag {s : Formatter} (hs : s.Coherent) (g : Tag) :
    (s.takeTag g).1.flatMap Block.ink ++ (s.takeTag g).2.held
      = s.held ++ (s.openFragment.step (.tag g)).1.flatMap Fragment.kept := by
  by_cases hmove : g.move s.frames = s.frames
  · have hstep : s.openFragment.step (.tag g) = ([], s.openFragment) :=
      OpenFragment.step_tag_of_move_eq hmove
    rw [takeTag_of_move_eq hmove, hstep]
    simp [held, alignment]
  · have hstep : (s.openFragment.step (.tag g)).1 = [s.openFragment.close] := by
      rw [OpenFragment.step_tag_of_move_ne hmove]
    have hclosed : (s.takeTag g).2.Closed := by
      rw [takeTag_of_move_ne hmove]
      exact closed_closeInline s
    rw [held_of_closed hclosed, hstep, takeTag_of_move_ne hmove, hs.ink_closeInline]
    simp

/-- **One step gives out what it takes in**, but for what waits. -/
theorem Coherent.ink_step {s : Formatter} (hs : s.Coherent) (p : Piece) :
    (s.step p).1.flatMap Block.ink ++ (s.step p).2.held
      = s.held ++ (s.openFragment.step p).1.flatMap Fragment.kept := by
  cases p with
  | newline =>
    rw [Formatter.step, hs.ink_takeNewline, OpenFragment.step, List.flatMap_singleton]
  | tag g => exact hs.ink_takeTag g
  | text run =>
    have hheld : (s.takeText run).held = s.held := by
      simp only [Formatter.takeText]
      split <;> rfl
    simp [Formatter.step, OpenFragment.step, hheld]

/-! ## The current line is the open fragment -/

theorem level?_enclosing (s : Formatter) : s.enclosing.level? = none := by
  rw [enclosing]
  split <;> rfl

theorem lineHasText_takeLine (s : Formatter) (line : Text) :
    (s.takeLine line).2.lineHasText = s.lineHasText := by
  rw [takeLine]
  split <;> rfl

theorem lineHasText_closeInline (s : Formatter) : s.closeInline.2.lineHasText = s.lineHasText := by
  rw [closeInline]
  split
  · rfl
  · simp only [closeBuffers]
    split
    · rfl
    · exact lineHasText_takeLine _ _

/-- The end of a line leaves its frames open and nothing in it. -/
theorem of_endLine {s : Formatter} (hmode : ∀ level, s.mode ≠ .heading level) :
    s.endLine.2.mode.level? = none ∧ s.endLine.2.line = [] ∧ s.endLine.2.frames = s.frames := by
  have hlevel : s.mode.level? = none := congrArg Fragment.level? (close_of_mode hmode)
  rw [endLine]
  split
  · split
    · exact ⟨hlevel, rfl, rfl⟩
    · exact ⟨hlevel, rfl, rfl⟩
  · rw [takeLine]
    split <;> exact ⟨hlevel, rfl, rfl⟩

theorem openFragment_takeNewline (s : Formatter) :
    s.takeNewline.2.openFragment = { frames := s.frames } := by
  rw [takeNewline]
  split
  · simp only [openFragment, closeHeading, level?_enclosing]
  · next hmode =>
    obtain ⟨hlevel, hline, hframes⟩ := of_endLine hmode
    simp only [openFragment, hlevel, hline, hframes]

theorem openFragment_takeTag (s : Formatter) (g : Tag) :
    (s.takeTag g).2.openFragment = (s.openFragment.step (.tag g)).2 := by
  by_cases hmove : g.move s.frames = s.frames
  · have hstep : s.openFragment.step (.tag g) = ([], s.openFragment) :=
      OpenFragment.step_tag_of_move_eq hmove
    rw [takeTag_of_move_eq hmove, hstep]
    rfl
  · have hstep : (s.openFragment.step (.tag g)).2
        = { frames := g.move s.frames, lineHasText := s.lineHasText } := by
      rw [OpenFragment.step_tag_of_move_ne hmove]
      rfl
    rw [takeTag_of_move_ne hmove, hstep, openFragment]
    simp only [level?_enclosing, line_closeInline, lineHasText_closeInline]

theorem openFragment_takeText (s : Formatter) (run : Text) :
    (s.takeText run).openFragment = s.openFragment.add run := by
  obtain ⟨frames, mode, line, _, lineHasText, _, _, _⟩ := s
  simp only [takeText, openFragment, OpenFragment.add, OpenFragment.opens?]
  cases mode with
  | heading level => rfl
  | normal =>
    simp only [LineMode.level?, Option.isNone_none, Bool.true_and]
    generalize (if (!lineHasText && line.isEmpty) = true then headingMarker? run else none) = m
    rcases m with _ | ⟨level, rest⟩ <;> rfl
  | aligned a =>
    simp only [LineMode.level?, Option.isNone_none, Bool.true_and]
    generalize (if (!lineHasText && line.isEmpty) = true then headingMarker? run else none) = m
    rcases m with _ | ⟨level, rest⟩ <;> rfl

/-- **The formatter's line is the open fragment**, after every step. -/
theorem openFragment_step (s : Formatter) :
    ∀ p : Piece, (s.step p).2.openFragment = (s.openFragment.step p).2
  | .newline => openFragment_takeNewline s
  | .tag g => openFragment_takeTag s g
  | .text run => openFragment_takeText s run

/-! ## Headings -/

theorem levels_buffers (s : Formatter) :
    (s.paragraphBlock ++ s.tableBlock).filterMap Block.level? = [] := by
  rw [List.filterMap_append, paragraphBlock, tableBlock]
  split <;> split <;> rfl

theorem levels_takeLine (s : Formatter) (line : Text) :
    (s.takeLine line).1.filterMap Block.level? = [] := by
  obtain ⟨hp, ht⟩ := List.append_eq_nil_iff.1
    ((List.filterMap_append ..).symm.trans s.levels_buffers)
  rw [takeLine]
  split
  · exact hp
  · exact ht

theorem levels_endLine (s : Formatter) : s.endLine.1.filterMap Block.level? = [] := by
  rw [endLine]
  split
  · split
    · rfl
    · simp only [closeBuffers]
      rw [List.filterMap_append, levels_buffers]
      split <;> rfl
  · exact levels_takeLine _ _

theorem levels_closeInline (s : Formatter) :
    s.closeInline.1.filterMap Block.level? = [s.openFragment.close].filterMap Fragment.level? := by
  rw [closeInline]
  split
  · next level hmode =>
    rw [closeHeading, List.filterMap_append, levels_buffers, openFragment, hmode]
    rfl
  · next hmode =>
    rw [close_of_mode hmode]
    simp only [closeBuffers]
    rw [List.filterMap_append, levels_buffers]
    split
    · rfl
    · rw [levels_takeLine]
      rfl

theorem levels_takeNewline (s : Formatter) :
    s.takeNewline.1.filterMap Block.level? = [s.openFragment.close].filterMap Fragment.level? := by
  rw [takeNewline]
  split
  · next level hmode =>
    rw [closeHeading, List.filterMap_append, levels_buffers, openFragment, hmode]
    rfl
  · next hmode =>
    rw [close_of_mode hmode, levels_endLine]
    rfl

/-- **A step gives out a heading for each heading fragment that it ends.** -/
theorem levels_step (s : Formatter) (p : Piece) :
    (s.step p).1.filterMap Block.level?
      = (s.openFragment.step p).1.filterMap Fragment.level? := by
  cases p with
  | newline => exact levels_takeNewline s
  | tag g =>
    by_cases hmove : g.move s.frames = s.frames
    · have hstep : s.openFragment.step (.tag g) = ([], s.openFragment) :=
        OpenFragment.step_tag_of_move_eq hmove
      rw [Formatter.step, takeTag_of_move_eq hmove, hstep]
      rfl
    · have hstep : (s.openFragment.step (.tag g)).1 = [s.openFragment.close] := by
        rw [OpenFragment.step_tag_of_move_ne hmove]
      rw [Formatter.step, takeTag_of_move_ne hmove, hstep]
      exact levels_closeInline s
  | text run => rfl

/-! ## Runs -/

/-- **The blocks of a run hold what waited and the ink of the fragments**, in this order. -/
theorem ink_run : ∀ (ps : List Piece) (s : Formatter), s.Coherent →
    (s.run ps).flatMap Block.ink
      = s.held ++ (s.openFragment.fragments ps).flatMap Fragment.kept
  | [], s, hs => by
      rw [run, finish, hs.ink_closeInline, OpenFragment.fragments, List.flatMap_singleton]
  | p :: ps, s, hs => by
      rw [run, List.flatMap_append, ink_run ps _ (hs.step p), openFragment_step,
        ← List.append_assoc, hs.ink_step, OpenFragment.fragments, List.flatMap_append,
        List.append_assoc]

/-- The headings of a run are the heading fragments. -/
theorem levels_run : ∀ (ps : List Piece) (s : Formatter),
    (s.run ps).filterMap Block.level?
      = (s.openFragment.fragments ps).filterMap Fragment.level?
  | [], s => levels_closeInline s
  | p :: ps, s => by
      rw [run, List.filterMap_append, levels_step, levels_run ps, openFragment_step,
        OpenFragment.fragments, List.filterMap_append]

end Formatter

/-! ## Blocks hold the ink of the text -/

theorem flatMap_ink_formatBlocks (t : Text) :
    (formatBlocks t).flatMap Block.ink = (Text.fragments t).flatMap Fragment.kept :=
  Formatter.ink_run _ _ .init

/-- **Formatting loses, doubles, reorders and re-aligns nothing.**  The fragments of a text hold its
ink; its blocks hold the ink of the fragments, in the same order and alignment, but for separator
rows and for the marker of each heading, which is as many number signs as the level of the heading
block says. -/
theorem formatBlocks_conserves_ink (t : Text) :
    (Text.fragments t).flatMap Fragment.ink = Text.alignedInk t ∧
      (formatBlocks t).flatMap Block.ink = (Text.fragments t).flatMap Fragment.kept ∧
      (formatBlocks t).filterMap Block.level? = (Text.fragments t).filterMap Fragment.level? ∧
      ∀ f ∈ Text.fragments t, ∀ level ∈ f.level?, 1 ≤ level ∧ level ≤ 3 :=
  ⟨Text.flatMap_ink_fragments t, flatMap_ink_formatBlocks t, Formatter.levels_run _ _,
    OpenFragment.level_le_of_mem_fragments _ _ fun _ h => by cases h⟩

end Conveyance
