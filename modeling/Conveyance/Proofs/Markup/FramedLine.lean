import Conveyance.Proofs.Markup.BlankLine

/-!
# Proofs/Markup/FramedLine — the lines of a text, each with the frames that are open before it

An alignment frame may stay open over many lines, so what a line becomes depends on two things: its
text and the frames that are open where it starts.  A `FramedLine` holds both, and **the fragments
of a text are those of its framed lines, one line after another** (`fragments_eq_flatMap`).  Headings
never go over the end of a line; the heading blocks of a text are those of its framed lines
(`headings_formatBlocks`).
-/

namespace Conveyance

/-! ## Signs -/

namespace Sign

/-- The text that a sign was read from. -/
def source : Sign → Text
  | tag g => g.text
  | char c => [c]

/-- A sign is a tag. -/
def isTag : Sign → Bool
  | tag _ => true
  | char _ => false

/-- A sign leaves no ink: it is a tag or a blank character. -/
def isInkless : Sign → Bool
  | tag _ => true
  | char c => Text.isBlank c

/-- The characters among signs. -/
def plain (signs : List Sign) : Text :=
  signs.filterMap fun
    | tag _ => none
    | char c => some c

/-- The frames that are open behind signs. -/
def framesAfter (frames : List Alignment) : List Sign → List Alignment
  | [] => frames
  | tag g :: signs => framesAfter (g.move frames) signs
  | char _ :: signs => framesAfter frames signs

@[simp] theorem plain_map_char (t : Text) : plain (t.map char) = t := by
  rw [plain, List.filterMap_map]
  exact List.filterMap_some

theorem flatMap_source_map_char (t : Text) : (t.map char).flatMap source = t := by
  rw [List.flatMap_map]
  exact List.flatMap_singleton' t

theorem plain_append (signs rest : List Sign) : plain (signs ++ rest) = plain signs ++ plain rest :=
  List.filterMap_append

theorem framesAfter_append (frames : List Alignment) (signs rest : List Sign) :
    framesAfter frames (signs ++ rest) = framesAfter (framesAfter frames signs) rest := by
  induction signs generalizing frames with
  | nil => rfl
  | cons s signs ih =>
    cases s with
    | tag g => exact ih _
    | char c => exact ih _

@[simp] theorem framesAfter_map_char (frames : List Alignment) (t : Text) :
    framesAfter frames (t.map char) = frames := by
  induction t with
  | nil => rfl
  | cons c t ih => exact ih

end Sign

/-- **Reading loses nothing**: the signs of a text, put together, are the text. -/
theorem Text.flatMap_source_signs (t : Text) : (signs t).flatMap Sign.source = t := by
  fun_induction signs t with
  | case1 => rfl
  | case2 c t tag rest hread _ ih =>
    rw [List.flatMap_cons, ih, Tag.eq_append_of_read? hread]
    rfl
  | case3 c t _ ih =>
    rw [List.flatMap_cons, ih]
    rfl

theorem Text.newline_notMem_pieces {t : Text} (h : '\n' ∉ t) : Piece.newline ∉ pieces t := by
  intro hmem
  rw [← flatMap_source_pieces t] at h
  exact h (List.mem_flatMap_of_mem hmem (List.mem_singleton_self '\n'))

/-- Without tildes, every character is a sign of its own. -/
theorem Text.signs_of_notMem {t : Text} (h : '~' ∉ t) : signs t = t.map .char := by
  induction t with
  | nil => rw [signs, List.map_nil]
  | cons c t ih =>
    rw [signs_cons_of_read?_eq_none (read?_eq_none (List.ne_of_not_mem_cons h).symm t),
      ih (List.not_mem_of_not_mem_cons h), List.map_cons]

/-! ## Framed lines -/

/-- A line of a text, with the frames that are open before it. -/
structure FramedLine where
  /-- The open frames, the innermost first. -/
  frames : List Alignment
  text : Text
  deriving DecidableEq, Repr

/-- Lines that follow one another, the first of them behind the given frames. -/
def framedLines (frames : List Alignment) : List Text → List FramedLine
  | [] => []
  | line :: lines =>
    ⟨frames, line⟩ :: framedLines (Sign.framesAfter frames (Text.signs line)) lines

/-- **The lines of a text**, each with the frames that are open before it. -/
def Text.framedLines (t : Text) : List FramedLine := Conveyance.framedLines [] (lines t)

/-- The fragments of a line. -/
def FramedLine.fragments (l : FramedLine) : List Fragment :=
  ({ frames := l.frames } : OpenFragment).fragments (Text.pieces l.text)

theorem map_text_framedLines (frames : List Alignment) (lines : List Text) :
    (framedLines frames lines).map FramedLine.text = lines := by
  induction lines generalizing frames with
  | nil => rfl
  | cons line lines ih => exact congrArg (line :: ·) (ih _)

/-- A framed line is a line: it does not go on over a newline. -/
theorem Text.newline_notMem_of_mem_framedLines {t : Text} {l : FramedLine}
    (h : l ∈ t.framedLines) : '\n' ∉ l.text := by
  intro hmem
  have hl : l.text ∈ lines t := by
    rw [← map_text_framedLines [] (lines t)]
    exact List.mem_map_of_mem h
  exact (mem_of_mem_splitOn hl '\n' hmem).2 rfl

namespace OpenFragment

/-- The open frames of a fragment are moved by the signs of a piece. -/
theorem frames_step (o : OpenFragment) (p : Piece) :
    (o.step p).2.frames = Sign.framesAfter o.frames p.signs := by
  rcases p with _ | g | run
  · rfl
  · by_cases h : g.move o.frames = o.frames
    · rw [step_tag_of_move_eq h]
      exact h.symm
    · rw [step_tag_of_move_ne h]
      rfl
  · rw [step, frames_add, Piece.signs, Sign.framesAfter_map_char]

/-- **A newline ends a fragment, and nothing but the open frames is left of the line.** -/
theorem fragments_append_newline (o : OpenFragment) (ps qs : List Piece) :
    o.fragments (ps ++ .newline :: qs) = o.fragments ps ++
      ({ frames := Sign.framesAfter o.frames (ps.flatMap Piece.signs) } : OpenFragment).fragments
        qs := by
  induction ps generalizing o with
  | nil => rfl
  | cons p ps ih =>
    rw [List.cons_append, fragments, ih, frames_step, fragments, List.flatMap_cons,
      Sign.framesAfter_append, List.append_assoc]

/-- The fragments of lines joined are those of the framed lines. -/
theorem fragments_join {lines : List Text} (hne : lines ≠ []) (frames : List Alignment) :
    ({ frames := frames } : OpenFragment).fragments (Text.pieces (Text.join ['\n'] lines))
      = (framedLines frames lines).flatMap FramedLine.fragments := by
  induction lines generalizing frames with
  | nil => exact absurd rfl hne
  | cons line lines ih =>
    rcases lines with _ | ⟨next, lines⟩
    · rw [Text.join_singleton, framedLines, framedLines, List.flatMap_singleton]
      rfl
    · rw [Text.join_cons_cons, List.append_assoc, List.singleton_append,
        Text.pieces_append_newline, fragments_append_newline, ← Text.signs_eq_flatMap_pieces,
        ih (List.cons_ne_nil next lines), framedLines, List.flatMap_cons]
      rfl

end OpenFragment

/-- **The fragments of a text are those of its lines.** -/
theorem Text.fragments_eq_flatMap (t : Text) :
    fragments t = t.framedLines.flatMap FramedLine.fragments := by
  have hjoin : join ['\n'] (lines t) = unixLines t := join_splitOn '\n' _
  rw [fragments, ← hjoin]
  exact OpenFragment.fragments_join (splitOn_ne_nil '\n' _) []

/-! ## Headings -/

/-- A marker is ink. -/
theorem allBlank_of_headingMarker? {t rest : Text} {level : Nat}
    (h : headingMarker? t = some (level, rest)) : Text.allBlank t = false := by
  obtain ⟨⟨hlevel, -⟩, hink⟩ := of_headingMarker?_eq_some h
  rw [Bool.eq_false_iff]
  intro hblank
  rw [Text.ink_eq_nil.2 hblank] at hink
  have hlength := congrArg List.length hink
  simp at hlength
  omega

/-- A block is a heading. -/
def Block.isHeading (b : Block) : Bool := b.level?.isSome

/-- The heading block that a fragment becomes, if it is a heading. -/
def Fragment.heading? (f : Fragment) : Option Block :=
  f.level?.map fun level => ⟨.heading level, f.alignment, Text.trim f.text⟩

/-- The heading blocks that come from a line. -/
def FramedLine.headings (l : FramedLine) : List Block := l.fragments.filterMap Fragment.heading?

theorem filter_isHeading_eq_nil {bs : List Block} (h : bs.filterMap Block.level? = []) :
    bs.filter Block.isHeading = [] := by
  rw [List.filterMap_eq_nil_iff] at h
  rw [List.filter_eq_nil_iff]
  intro b hb
  rw [Block.isHeading, h b hb]
  decide

namespace Formatter

variable {s : Formatter}

/-- The end of a heading gives out the heading last, and leaves nothing open. -/
theorem closeHeading_fst (s : Formatter) (level : Nat) :
    (s.closeHeading level).1 = (s.paragraphBlock ++ s.tableBlock)
      ++ [⟨.heading level, s.openFragment.close.alignment, Text.trim s.line⟩] := rfl

theorem headings_closeHeading (hmode : s.mode = .heading level) :
    (s.closeHeading level).1.filter Block.isHeading
      = [s.openFragment.close].filterMap Fragment.heading? := by
  rw [closeHeading_fst, List.filter_append, filter_isHeading_eq_nil s.levels_buffers,
    openFragment, hmode]
  rfl

theorem heading?_close (hmode : ∀ level, s.mode ≠ .heading level) :
    s.openFragment.close.heading? = none := by
  rw [close_of_mode hmode]
  rfl

theorem headings_closeInline (s : Formatter) :
    s.closeInline.1.filter Block.isHeading
      = [s.openFragment.close].filterMap Fragment.heading? := by
  have hlevels := s.levels_closeInline
  rw [closeInline] at hlevels ⊢
  split at hlevels
  · next level hmode => exact headings_closeHeading hmode
  · next hmode =>
    rw [close_of_mode hmode] at hlevels
    rw [filter_isHeading_eq_nil hlevels, List.filterMap_cons, heading?_close hmode]
    rfl

theorem headings_takeNewline (s : Formatter) :
    s.takeNewline.1.filter Block.isHeading
      = [s.openFragment.close].filterMap Fragment.heading? := by
  rw [takeNewline]
  split
  · next level hmode => exact headings_closeHeading hmode
  · next hmode =>
    rw [filter_isHeading_eq_nil s.levels_endLine, List.filterMap_cons, heading?_close hmode]
    rfl

/-- **A step gives out the headings that the fragments it ends are.** -/
theorem headings_step (s : Formatter) (p : Piece) :
    (s.step p).1.filter Block.isHeading
      = (s.openFragment.step p).1.filterMap Fragment.heading? := by
  rcases p with _ | g | run
  · exact headings_takeNewline s
  · rw [Formatter.step]
    by_cases hmove : g.move s.frames = s.frames
    · have hstep : s.openFragment.step (.tag g) = ([], s.openFragment) :=
        OpenFragment.step_tag_of_move_eq hmove
      rw [takeTag_of_move_eq hmove, hstep]
      rfl
    · have hstep : (s.openFragment.step (.tag g)).1 = [s.openFragment.close] := by
        rw [OpenFragment.step_tag_of_move_ne hmove]
      rw [takeTag_of_move_ne hmove, hstep]
      exact headings_closeInline s
  · rfl

/-- The headings of a run are the fragments that are headings. -/
theorem headings_run (s : Formatter) (ps : List Piece) :
    (s.run ps).filter Block.isHeading
      = (s.openFragment.fragments ps).filterMap Fragment.heading? := by
  induction ps generalizing s with
  | nil => exact headings_closeInline s
  | cons p ps ih =>
    rw [run, List.filter_append, headings_step, ih, openFragment_step, OpenFragment.fragments,
      List.filterMap_append]

end Formatter

/-- **The heading blocks of a text are those of its lines**, one line after another. -/
theorem headings_formatBlocks (t : Text) :
    (formatBlocks t).filter Block.isHeading = t.framedLines.flatMap FramedLine.headings := by
  have hrun : (formatBlocks t).filter Block.isHeading
      = (Text.fragments t).filterMap Fragment.heading? := Formatter.headings_run {} _
  rw [hrun, Text.fragments_eq_flatMap, List.filterMap_flatMap]
  rfl

end Conveyance
