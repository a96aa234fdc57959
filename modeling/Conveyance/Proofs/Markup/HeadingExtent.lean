import Conveyance.Proofs.Markup.HeadingLine

/-!
# Proofs/Markup/HeadingExtent — how far a heading goes

A line that opens a heading gives one heading block, and **the block ends at the next tag that moves
the frames**, at the end of the line if there is none: what stands between such a tag and the end of
the line goes into paragraphs and tables.  So the whole line is in the heading exactly when no ink
stands behind such a tag, and the heading is empty exactly when none stands before it
(`formatBlocks_of_headingLine`).  The next line is never in the heading.
-/

namespace Conveyance

/-- **Blocks carry fragments**: they give out what was held and the fragments' ink, and their
headings are the fragments that are headings. -/
structure Carries (held : AlignedText) (blocks : List Block) (fs : List Fragment) : Prop where
  ink : blocks.flatMap Block.ink = held ++ fs.flatMap Fragment.kept
  headings : blocks.filter Block.isHeading = fs.filterMap Fragment.heading?

/-- Fragments without ink and without headings count for nothing. -/
theorem Carries.of_blanks {held : AlignedText} {blocks : List Block} {fs blanks : List Fragment}
    (h : Carries held blocks (fs ++ blanks))
    (hblanks : ∀ f ∈ blanks, f.level? = none ∧ Text.allBlank f.text = true) :
    Carries held blocks fs where
  ink := by
    have hink : blanks.flatMap Fragment.kept = [] :=
      List.flatMap_eq_nil_iff.2 fun f hf => Formatter.kept_of_allBlank (hblanks f hf).2
    rw [h.ink, List.flatMap_append, hink, List.append_nil]
  headings := by
    rw [h.headings, List.filterMap_append, filterMap_heading?_eq_nil fun f hf => (hblanks f hf).1,
      List.append_nil]

/-- A step ends the open fragment or none. -/
theorem OpenFragment.step_fst (o : OpenFragment) (p : Piece) :
    (o.step p).1 = [] ∨ (o.step p).1 = [o.close] := by
  cases p with
  | newline => exact .inr rfl
  | tag g =>
    rw [step]
    split
    · exact .inl rfl
    · exact .inr rfl
  | text run => exact .inl rfl

namespace Formatter

variable {s : Formatter}

/-- A run carries its fragments. -/
theorem Coherent.carries_run (hs : s.Coherent) (ps : List Piece) :
    Carries s.held (s.run ps) (s.openFragment.fragments ps) :=
  ⟨ink_run ps s hs, s.headings_run ps⟩

/-- A step carries the fragments that it ends in front of what the next blocks carry. -/
theorem Coherent.carries_step (hs : s.Coherent) (p : Piece) {blocks : List Block}
    {fs : List Fragment} (h : Carries (s.step p).2.held blocks fs) :
    Carries s.held ((s.step p).1 ++ blocks) ((s.openFragment.step p).1 ++ fs) where
  ink := by
    rw [List.flatMap_append, h.ink, ← List.append_assoc, hs.ink_step, List.append_assoc,
      List.flatMap_append]
  headings := by rw [List.filter_append, headings_step, h.headings, List.filterMap_append]

theorem carries_buffers (s : Formatter) : Carries s.held (s.paragraphBlock ++ s.tableBlock) [] where
  ink := s.ink_buffers.trans (List.append_nil _).symm
  headings := filter_isHeading_eq_nil s.levels_buffers

/-- **A heading that ends goes out as a block**, behind all that waited. -/
theorem closeHeading_of_heading? {b : Block} (h : s.openFragment.close.heading? = some b) :
    ∃ level, s.mode = .heading level ∧
      (s.closeHeading level).1 = (s.paragraphBlock ++ s.tableBlock) ++ [b] := by
  cases hmode : s.mode with
  | heading level =>
    refine ⟨level, rfl, ?_⟩
    rw [openFragment, hmode] at h
    rw [closeHeading_fst, ← Option.some.inj h]
    rfl
  | normal | aligned =>
    rw [heading?_close (by simp [hmode])] at h
    cases h

/-- A step that ends a heading leaves nothing open. -/
theorem step_of_heading? {p : Piece} {b : Block} (hp : (s.openFragment.step p).1 ≠ [])
    (h : s.openFragment.close.heading? = some b) :
    (s.step p).1 = (s.paragraphBlock ++ s.tableBlock) ++ [b] ∧ (s.step p).2.Closed := by
  obtain ⟨level, hmode, hclose⟩ := closeHeading_of_heading? h
  cases p with
  | newline =>
    rw [step, takeNewline, hmode]
    exact ⟨hclose, closed_closeHeading s level⟩
  | tag g =>
    have hmove : g.move s.frames ≠ s.frames := by
      intro hmove
      rw [OpenFragment.step_tag_of_move_eq (o := s.openFragment) hmove] at hp
      exact hp rfl
    have hinline : s.closeInline = s.closeHeading level := by rw [closeInline, hmode]
    rw [step, takeTag_of_move_ne hmove, hinline]
    exact ⟨hclose, closed_closeHeading s level⟩
  | text run => exact absurd rfl hp

/-- **A run is cut where a heading stands**: the blocks before the heading carry the fragments
before it, the blocks behind it those behind it. -/
theorem Coherent.exists_run_eq (hs : s.Coherent) {ps : List Piece} {above below : List Fragment}
    {f : Fragment} {b : Block} (h : s.openFragment.fragments ps = above ++ f :: below)
    (hf : f.heading? = some b) :
    ∃ upper lower, s.run ps = upper ++ b :: lower ∧ Carries s.held upper above ∧
      Carries [] lower below := by
  induction ps generalizing s above with
  | nil =>
    obtain ⟨rfl, hclose⟩ : above = [] ∧ [s.openFragment.close] = f :: below := by
      rcases above with _ | ⟨g, above⟩
      · exact ⟨rfl, h⟩
      · have hlength := congrArg List.length h
        simp [OpenFragment.fragments] at hlength
    obtain ⟨rfl, rfl⟩ := List.cons.inj hclose
    obtain ⟨level, hmode, hclose⟩ := closeHeading_of_heading? hf
    refine ⟨_, [], ?_, s.carries_buffers, ⟨rfl, rfl⟩⟩
    rw [run, finish, closeInline, hmode]
    exact hclose
  | cons p ps ih =>
    rw [OpenFragment.fragments, ← openFragment_step] at h
    -- as long as the heading has not ended, the step is one of those before it
    have hbefore : ∀ above', above = (s.openFragment.step p).1 ++ above' →
        (s.step p).2.openFragment.fragments ps = above' ++ f :: below →
        ∃ upper lower, s.run (p :: ps) = upper ++ b :: lower ∧ Carries s.held upper above ∧
          Carries [] lower below := by
      rintro above' rfl hrest
      obtain ⟨upper, lower, hrun, hupper, hlower⟩ := ih (hs.step p) hrest
      refine ⟨(s.step p).1 ++ upper, lower, ?_, hs.carries_step p hupper, hlower⟩
      rw [run, hrun, List.append_assoc]
    rcases OpenFragment.step_fst s.openFragment p with hnone | hclose
    · rw [hnone, List.nil_append] at h
      exact hbefore above (by rw [hnone, List.nil_append]) h
    · rw [hclose, List.singleton_append] at h
      rcases above with _ | ⟨g, above⟩
      · obtain ⟨rfl, rfl⟩ := List.cons.inj h
        obtain ⟨hblocks, hclosed⟩ := step_of_heading? (hclose ▸ List.cons_ne_nil _ _) hf
        have hlower := (hs.step p).carries_run ps
        rw [held_of_closed hclosed] at hlower
        refine ⟨_, _, ?_, s.carries_buffers, hlower⟩
        rw [run, hblocks, List.append_assoc, List.singleton_append]
      · obtain ⟨rfl, hrest⟩ := List.cons.inj h
        exact hbefore above (by rw [hclose, List.singleton_append]) hrest

end Formatter

/-! ## Lines that open a heading -/

namespace Text

theorem trim_eq_nil {t : Text} : trim t = [] ↔ allBlank t = true := by
  constructor
  · intro h
    rw [← ink_eq_nil, ← ink_trim, h]
    rfl
  · intro h
    rw [trim, trimStart, List.dropWhile_eq_nil_iff.2 (List.all_eq_true.1 h)]
    rfl

end Text

/-- **A line that opens a heading**: no blanks are hidden in front of its mark. -/
structure FramedLine.Opens (l : FramedLine) (front : List Sign) (indent : Text) (m : HeadingMark)
    (rest : List Sign) : Prop extends FramedLine.Marked l front indent m rest where
  shown : ¬ Sign.Hides l.frames (front ++ indent.map .char)

/-- The heading that a mark opens inside the given frames: what stands before the next tag that
moves them. -/
def HeadingMark.block (m : HeadingMark) (frames : List Alignment) (rest : List Sign) : Block :=
  ⟨.heading m.level, Alignment.innermost frames, Text.trim (Sign.reach frames rest)⟩

namespace HeadingMark

variable (m : HeadingMark) (frames : List Alignment) (rest : List Sign)

/-- **The whole line is in the heading** exactly when no ink stands beyond its reach. -/
theorem ink_block_eq_iff : (m.block frames rest).ink = Sign.alignedInk frames rest ↔
    Sign.alignedInk frames (Sign.beyond frames rest) = [] := by
  rw [Sign.alignedInk_eq_reach_append, block, Block.ink, Text.inkIn_trim]
  exact List.self_eq_append_right

/-- **The heading is empty** exactly when no ink stands in its reach. -/
theorem text_block_eq_nil_iff :
    (m.block frames rest).text = [] ↔ Text.allBlank (Sign.reach frames rest) = true :=
  Text.trim_eq_nil

end HeadingMark

namespace FramedLine

variable {l : FramedLine} {front rest : List Sign} {indent : Text} {m : HeadingMark}

theorem headings_ne_nil_iff (hnewline : '\n' ∉ l.text) :
    l.headings ≠ [] ↔ ∃ front indent m rest, l.Opens front indent m rest := by
  constructor
  · intro h
    obtain ⟨front, indent, m, rest, hmarked, hshown⟩ :=
      exists_marked_of_headings_ne_nil hnewline h
    exact ⟨front, indent, m, rest, hmarked, hshown⟩
  · rintro ⟨front, indent, m, rest, h⟩
    rw [h.headings h.shown]
    exact List.cons_ne_nil _ _

/-- **The blocks of a text around a heading**: those before it carry the lines above, those behind
it what the line holds beyond the heading's reach, and then the lines below. -/
theorem Opens.formatBlocks_eq (h : l.Opens front indent m rest) {t : Text}
    {before after : List FramedLine} (hlines : t.framedLines = before ++ l :: after) :
    ∃ (upper lower : List Block) (tail : List Fragment),
      formatBlocks t = upper ++ m.block (Sign.framesAfter l.frames front) rest :: lower ∧
        Carries [] upper (before.flatMap FramedLine.fragments) ∧
        Carries [] lower (tail ++ after.flatMap FramedLine.fragments) ∧
        (∀ f ∈ tail, f.level? = none) ∧
        tail.flatMap Fragment.ink = Sign.alignedInk (Sign.framesAfter l.frames front)
          (Sign.beyond (Sign.framesAfter l.frames front) rest) := by
  obtain ⟨blanks, tail, text, hfragments, hblanks, htail, htrim, hink⟩ := h.fragments h.shown
  have hcut : Text.fragments t = (before.flatMap FramedLine.fragments ++ blanks)
      ++ ⟨Alignment.innermost (Sign.framesAfter l.frames front), some m.level, text⟩
        :: (tail ++ after.flatMap FramedLine.fragments) := by
    rw [Text.fragments_eq_flatMap, hlines, List.flatMap_append, List.flatMap_cons, hfragments]
    simp only [List.append_assoc, List.cons_append]
  have hheading : Fragment.heading?
      ⟨Alignment.innermost (Sign.framesAfter l.frames front), some m.level, text⟩
        = some (m.block (Sign.framesAfter l.frames front) rest) := by
    rw [HeadingMark.block, ← htrim]
    rfl
  obtain ⟨upper, lower, hrun, hupper, hlower⟩ := Formatter.Coherent.init.exists_run_eq hcut hheading
  exact ⟨upper, lower, tail, hrun, hupper.of_blanks hblanks, hlower, htail, hink⟩

end FramedLine

/-- **How far a heading goes.**  A line holds a heading exactly when it opens one with a mark.  The
heading reaches to the next tag that moves the frames: it holds the rest of the line exactly when no
ink stands beyond that tag, and it is empty exactly when none stands before it.  What stands beyond
is in no heading, and a newline always leaves the heading behind. -/
theorem formatBlocks_of_headingLine (t : Text) :
    (∀ before l after, t.framedLines = before ++ l :: after →
      (l.headings ≠ [] ↔ ∃ front indent m rest, l.Opens front indent m rest) ∧
        ∀ front indent m rest, l.Opens front indent m rest →
          let heading := m.block (Sign.framesAfter l.frames front) rest
          let beyond := Sign.alignedInk (Sign.framesAfter l.frames front)
            (Sign.beyond (Sign.framesAfter l.frames front) rest)
          l.headings = [heading] ∧
            (heading.ink = Sign.alignedInk (Sign.framesAfter l.frames front) rest
              ↔ beyond = []) ∧
            (heading.text = [] ↔
              Text.allBlank (Sign.reach (Sign.framesAfter l.frames front) rest) = true) ∧
            ∃ (upper lower : List Block) (tail : List Fragment),
              formatBlocks t = upper ++ heading :: lower ∧
                Carries [] upper (before.flatMap FramedLine.fragments) ∧
                Carries [] lower (tail ++ after.flatMap FramedLine.fragments) ∧
                (∀ f ∈ tail, f.level? = none) ∧ tail.flatMap Fragment.ink = beyond) ∧
      ∀ s : Formatter, s.Reached t → ∀ level, (s.step .newline).2.mode ≠ .heading level := by
  constructor
  · intro before l after hlines
    have hmem : l ∈ t.framedLines := by
      rw [hlines]
      exact List.mem_append_right _ List.mem_cons_self
    refine ⟨FramedLine.headings_ne_nil_iff (Text.newline_notMem_of_mem_framedLines hmem), ?_⟩
    intro front indent m rest h
    exact ⟨h.headings h.shown, m.ink_block_eq_iff _ rest, m.text_block_eq_nil_iff _ rest,
      h.formatBlocks_eq hlines⟩
  · intro s hs level
    have hfresh := hs.sound.coherent.freshLine_takeNewline
    rw [Formatter.step, hfresh.mode]
    exact Formatter.enclosing_ne_heading _ level

/-- A closing tag that closes nothing leaves the line in its heading. -/
theorem formatBlocks_of_headingLine_saleDeed :
    let t : Text := "# Sale~/center~ deed\nNext".toList
    FramedLine.headings ⟨[], "# Sale~/center~ deed".toList⟩
        = [⟨.heading 1, .left, "Sale deed".toList⟩] ∧
      ∃ upper lower,
        formatBlocks t = upper ++ ⟨.heading 1, .left, "Sale deed".toList⟩ :: lower := by
  intro t
  have hlines : Text.framedLines t
      = [] ++ ⟨[], "# Sale~/center~ deed".toList⟩ :: [⟨[], "Next".toList⟩] := by decide +kernel
  have hopens : FramedLine.Opens ⟨[], "# Sale~/center~ deed".toList⟩ [] []
      ⟨1, ' ', by decide, by decide, rfl⟩ (Text.signs "Sale~/center~ deed".toList) :=
    ⟨⟨by decide, by decide +kernel, .nil, rfl, List.forall_mem_nil _⟩, fun hhidden =>
      (Sign.EndsTagged.nil.hides_iff [] []).1 hhidden rfl⟩
  have hblock : HeadingMark.block ⟨1, ' ', by decide, by decide, rfl⟩ []
      (Text.signs "Sale~/center~ deed".toList) = ⟨.heading 1, .left, "Sale deed".toList⟩ := by
    decide +kernel
  obtain ⟨hheadings, -, -, upper, lower, -, hblocks, -⟩ :=
    ((formatBlocks_of_headingLine t).1 _ _ _ hlines).2 _ _ _ _ hopens
  rw [Sign.framesAfter, hblock] at hheadings hblocks
  exact ⟨hheadings, upper, lower, hblocks⟩

/-- A tag that opens a frame ends the heading, here before its first character. -/
theorem formatBlocks_headingCut :
    formatBlocks "# ~center~Title".toList
      = [⟨.heading 1, .left, []⟩, ⟨.paragraph, .center, "Title".toList⟩] := by
  decide +kernel

end Conveyance
