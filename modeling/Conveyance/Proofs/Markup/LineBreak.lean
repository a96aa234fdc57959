import Conveyance.Proofs.Markup.FramedLine
import Mathlib.Algebra.GroupWithZero.Nat

/-!
# Proofs/Markup/LineBreak — how many empty lines a text keeps

A run of blank lines divides two blocks, and each line of it but the first is kept as a block of its
own.  The formatter counts the blank lines that follow one another; a line of text starts the count
again, but **a line of tags leaves the count as it is**.  So the line breaks of a text are the extra
blank lines of its lines without the lines of tags (`lineBreaks_formatBlocks`), and they are more
than the text shows where a run of blank lines goes on behind such lines.
-/

namespace Conveyance

/-! ## Blank lines -/

/-- A line of tags: it holds a tag, and besides tags only blanks. -/
def Text.isTagLine (line : Text) : Bool :=
  (signs line).any Sign.isTag && (signs line).all Sign.isInkless

/-- **The extra blank lines**: each run of blank lines has as many as it has lines, less one.  A run
is what stands between two lines that are not blank. -/
def extraBlankLines (lines : List Text) : Nat :=
  ((lines.splitOnP fun line => !Text.allBlank line).map fun run => run.length - 1).sum

/-- Lines of tags alone divide two blank lines. -/
def TagsDivideBlanks (lines : List Text) : Prop :=
  ∃ before first tags second after, lines = before ++ first :: (tags ++ second :: after) ∧
    Text.allBlank first = true ∧ Text.allBlank second = true ∧ tags ≠ [] ∧
    ∀ line ∈ tags, Text.isTagLine line = true

theorem extraBlankLines_cons (line : Text) (lines : List Text) :
    extraBlankLines (line :: lines)
      = (if Text.allBlank line && lines.head?.any Text.allBlank then 1 else 0)
        + extraBlankLines lines := by
  rw [extraBlankLines, List.splitOnP_cons_eq_if_modifyHead]
  cases hline : Text.allBlank line with
  | false => simp [extraBlankLines]
  | true =>
    rcases lines with _ | ⟨next, lines⟩
    · rfl
    · rw [extraBlankLines, List.splitOnP_cons_eq_if_modifyHead]
      obtain ⟨run, runs, hruns⟩ := List.exists_cons_of_ne_nil
        (List.splitOnP_ne_nil (fun line => !Text.allBlank line) lines)
      rw [hruns]
      cases hnext : Text.allBlank next with
      | false => simp [hnext]
      | true => simp [hnext]; omega

/-- A line of tags is not blank. -/
theorem Text.allBlank_eq (line : Text) :
    allBlank line = ((signs line).all Sign.isInkless && !(signs line).any Sign.isTag) := by
  rw [Bool.eq_iff_iff, Bool.and_eq_true, Bool.not_eq_true', List.any_eq_false, List.all_eq_true]
  constructor
  · intro hblank
    have hchars : ∀ c ∈ line, isBlank c = true := List.all_eq_true.1 hblank
    have htilde : '~' ∉ line := fun hmem => by cases hchars '~' hmem
    rw [signs_of_notMem htilde]
    simpa [Sign.isInkless, Sign.isTag] using hchars
  · rintro ⟨hinkless, htag⟩
    rw [← flatMap_source_signs line, allBlank, List.all_flatMap, List.all_eq_true]
    intro s hs
    cases s with
    | tag g => exact absurd rfl (htag _ hs)
    | char c =>
      have hc : isBlank c = true := hinkless _ hs
      simp [Sign.source, hc]

theorem Text.allBlank_eq_false_of_isTagLine {line : Text} (h : isTagLine line = true) :
    allBlank line = false := by
  rw [isTagLine, Bool.and_eq_true] at h
  rw [allBlank_eq, h.1, Bool.not_true, Bool.and_false]

/-! ## Counting -/

/-- How many blank lines stand together behind a line, `run` of them before it. -/
def blankRunAfter (run : Nat) (line : Text) : Nat :=
  if Text.allBlank line then run + 1 else if Text.isTagLine line then run else 0

/-- The line breaks that lines make behind a run of blank lines. -/
def breaksFrom (run : Nat) : List Text → Nat
  | [] => 0
  | line :: lines =>
    (if Text.allBlank line && 0 < run then 1 else 0) + breaksFrom (blankRunAfter run line) lines

/-- **The lines of tags do not count**: the first line that is none goes on with the run. -/
theorem breaksFrom_eq (run : Nat) (lines : List Text) :
    breaksFrom run lines
      = (if (lines.filter (!Text.isTagLine ·)).head?.any Text.allBlank && 0 < run then 1 else 0)
        + extraBlankLines (lines.filter (!Text.isTagLine ·)) := by
  induction lines generalizing run with
  | nil => rfl
  | cons line lines ih =>
    rw [breaksFrom, blankRunAfter, ih]
    cases htag : Text.isTagLine line with
    | true =>
      have hline := Text.allBlank_eq_false_of_isTagLine htag
      simp [hline, htag]
    | false =>
      rw [List.filter_cons_of_pos (by simp [htag]), extraBlankLines_cons]
      cases hline : Text.allBlank line with
      | true => simp [hline]
      | false => simp [hline]

theorem breaksFrom_zero (lines : List Text) :
    breaksFrom 0 lines = extraBlankLines (lines.filter (!Text.isTagLine ·)) := by
  rw [breaksFrom_eq]
  simp

/-! ## Where the lines of tags matter -/

/-- A blank line is no line of tags. -/
theorem head?_filter_of_blank {lines : List Text} (h : lines.head?.any Text.allBlank = true) :
    (lines.filter (!Text.isTagLine ·)).head?.any Text.allBlank = true := by
  rcases lines with _ | ⟨line, lines⟩
  · cases h
  · have htag : Text.isTagLine line = false := by
      refine Bool.eq_false_iff.2 fun htag => ?_
      have hline : Text.allBlank line = true := h
      rw [Text.allBlank_eq_false_of_isTagLine htag] at hline
      cases hline
    rw [List.filter_cons_of_pos (by simp [htag])]
    exact h

/-- Lines of tags, at least one, stand in front of a blank line. -/
def TagsBeforeBlank (lines : List Text) : Prop :=
  ∃ tags second after, lines = tags ++ second :: after ∧ Text.allBlank second = true ∧
    tags ≠ [] ∧ ∀ line ∈ tags, Text.isTagLine line = true

theorem tagsBeforeBlank_iff {lines : List Text} :
    TagsBeforeBlank lines ↔
      (lines.filter (!Text.isTagLine ·)).head?.any Text.allBlank = true ∧
        lines.head?.any Text.allBlank = false := by
  rw [List.head?_filter]
  constructor
  · rintro ⟨tags, second, after, rfl, hsecond, hne, htags⟩
    have hfind : (tags ++ second :: after).find? (!Text.isTagLine ·) = some second := by
      refine List.find?_eq_some_iff_append.2 ⟨?_, tags, after, rfl, fun line hline => ?_⟩
      · rw [Bool.not_eq_true', Bool.eq_false_iff]
        intro htag
        rw [Text.allBlank_eq_false_of_isTagLine htag] at hsecond
        cases hsecond
      · rw [htags line hline]
        rfl
    obtain ⟨first, rest, rfl⟩ := List.exists_cons_of_ne_nil hne
    rw [hfind]
    exact ⟨hsecond, Text.allBlank_eq_false_of_isTagLine (htags first List.mem_cons_self)⟩
  · rintro ⟨hfind, hhead⟩
    obtain ⟨second, hsome, hsecond⟩ := (Option.any_eq_true _ _).1 hfind
    obtain ⟨-, tags, after, rfl, htags⟩ := List.find?_eq_some_iff_append.1 hsome
    have htags : ∀ line ∈ tags, Text.isTagLine line = true := fun line hline => by
      simpa using htags line hline
    refine ⟨tags, second, after, rfl, hsecond, ?_, htags⟩
    rintro rfl
    have hhead : Text.allBlank second = false := hhead
    rw [hsecond] at hhead
    cases hhead

theorem tagsDivideBlanks_cons_iff {line : Text} {lines : List Text} :
    TagsDivideBlanks (line :: lines) ↔
      (Text.allBlank line = true ∧ TagsBeforeBlank lines) ∨ TagsDivideBlanks lines := by
  constructor
  · rintro ⟨_ | ⟨line', before⟩, first, tags, second, after, hlines, hfirst, hrest⟩
    · obtain ⟨rfl, rfl⟩ := List.cons.inj hlines
      exact .inl ⟨hfirst, tags, second, after, rfl, hrest⟩
    · obtain ⟨rfl, rfl⟩ := List.cons.inj hlines
      exact .inr ⟨before, first, tags, second, after, rfl, hfirst, hrest⟩
  · rintro (⟨hline, tags, second, after, rfl, hrest⟩ |
      ⟨before, first, tags, second, after, rfl, hfirst, hrest⟩)
    · exact ⟨[], line, tags, second, after, rfl, hline, hrest⟩
    · exact ⟨line :: before, first, tags, second, after, rfl, hfirst, hrest⟩

/-- **Counting without the lines of tags counts more exactly where they divide blank lines.** -/
theorem extraBlankLines_filter (lines : List Text) :
    extraBlankLines lines ≤ extraBlankLines (lines.filter (!Text.isTagLine ·)) ∧
      (extraBlankLines (lines.filter (!Text.isTagLine ·)) = extraBlankLines lines ↔
        ¬TagsDivideBlanks lines) := by
  induction lines with
  | nil =>
    refine ⟨Nat.le_refl _, iff_of_true rfl ?_⟩
    rintro ⟨before, first, tags, second, after, hlines, -⟩
    simp at hlines
  | cons line lines ih =>
    rw [tagsDivideBlanks_cons_iff, tagsBeforeBlank_iff, extraBlankLines_cons line lines]
    cases htag : Text.isTagLine line with
    | true =>
      have hline := Text.allBlank_eq_false_of_isTagLine htag
      simpa [hline, htag] using ih
    | false =>
      rw [List.filter_cons_of_pos (by simp [htag]), extraBlankLines_cons]
      cases hline : Text.allBlank line with
      | false => simpa [hline] using ih
      | true =>
        -- the line ends a run of blank lines, goes on with one, or goes on with one only when the
        -- lines of tags behind it are left out
        obtain ⟨hle, hiff⟩ := ih
        cases hnext : lines.head?.any Text.allBlank with
        | true =>
          rw [head?_filter_of_blank hnext]
          simpa using ⟨hle, hiff⟩
        | false =>
          cases hfar : (lines.filter (!Text.isTagLine ·)).head?.any Text.allBlank with
          | true =>
            simp only [Bool.and_true, Bool.and_false, if_true, Bool.false_eq_true, if_false]
            exact ⟨by omega, iff_of_false (by omega) (by simp)⟩
          | false => simpa using ⟨hle, hiff⟩

/-! ## Steps -/

/-- How many line breaks there are among blocks. -/
def lineBreaks (bs : List Block) : Nat := bs.countP (·.kind = .lineBreak)

theorem lineBreaks_append (bs bs' : List Block) :
    lineBreaks (bs ++ bs') = lineBreaks bs + lineBreaks bs' := List.countP_append

namespace Formatter

variable {s : Formatter}

theorem lineBreaks_buffers (s : Formatter) : lineBreaks (s.paragraphBlock ++ s.tableBlock) = 0 := by
  rw [paragraphBlock, tableBlock]
  split <;> split <;> rfl

theorem lineBreaks_takeLine (s : Formatter) (line : Text) : lineBreaks (s.takeLine line).1 = 0 := by
  have hbuffers := s.lineBreaks_buffers
  rw [lineBreaks_append] at hbuffers
  rw [takeLine]
  split
  · exact Nat.eq_zero_of_add_eq_zero_right hbuffers
  · exact Nat.eq_zero_of_add_eq_zero_left hbuffers

/-- A line that is taken ends the run of blank lines. -/
theorem blankRun_takeLine (s : Formatter) (line : Text) : (s.takeLine line).2.blankRun = 0 := by
  rw [takeLine]
  split <;> rfl

theorem lineBreaks_closeHeading (s : Formatter) (level : Nat) :
    lineBreaks (s.closeHeading level).1 = 0 := by
  rw [closeHeading, lineBreaks_append, lineBreaks_buffers]
  rfl

theorem lineBreaks_closeInline (s : Formatter) : lineBreaks s.closeInline.1 = 0 := by
  rw [closeInline]
  split
  · exact lineBreaks_closeHeading s _
  · simp only [closeBuffers]
    rw [lineBreaks_append, lineBreaks_buffers]
    split
    · rfl
    · exact lineBreaks_takeLine _ _

/-- **Only the end of a line makes a line break.** -/
theorem lineBreaks_step {p : Piece} (hp : p ≠ .newline) (s : Formatter) :
    lineBreaks (s.step p).1 = 0 := by
  rcases p with _ | g | run
  · exact absurd rfl hp
  · rw [step]
    by_cases hmove : g.move s.frames = s.frames
    · rw [takeTag_of_move_eq hmove]
      rfl
    · rw [takeTag_of_move_ne hmove]
      exact s.lineBreaks_closeInline
  · rfl

/-! ## In the middle of a line -/

/-- The end of the current line, or a tag, starts the count of blank lines again. -/
def HoldsText (s : Formatter) : Prop :=
  (∃ level, s.mode = .heading level) ∨ Text.allBlank s.line = false

theorem HoldsText.blankRun_closeInline (h : s.HoldsText) : s.closeInline.2.blankRun = 0 := by
  rw [closeInline]
  split
  · rfl
  · next hmode =>
    rcases h with ⟨level, hlevel⟩ | hline
    · exact absurd hlevel (hmode level)
    · simp only [hline, Bool.false_eq_true, if_false]
      exact blankRun_takeLine _ _

theorem blankRun_closeInline (h : ¬s.HoldsText) : s.closeInline.2.blankRun = s.blankRun := by
  rw [HoldsText, not_or, not_exists, Bool.not_eq_false] at h
  rw [closeInline]
  split
  · next level hlevel => exact absurd hlevel (h.1 level)
  · simp only [h.2]
    rfl

/-- **What is known in the middle of a line** behind a run of blank lines, when these signs of the
line have been read. -/
structure MidLine (run : Nat) (signs : List Sign) (s : Formatter) : Prop where
  lineHasTag : s.lineHasTag = signs.any Sign.isTag
  /-- As long as the line is without ink, it has changed nothing. -/
  inkless : signs.all Sign.isInkless = true → ¬s.HoldsText ∧ s.blankRun = run
  /-- Ink waits in the line, or a tag has ended the count with it. -/
  inked : signs.all Sign.isInkless = false →
    s.HoldsText ∨ s.blankRun = 0 ∧ s.lineHasTag = true

theorem FreshLine.midLine (h : s.FreshLine) : MidLine s.blankRun [] s where
  lineHasTag := h.lineHasTag
  inkless _ := by
    refine ⟨?_, rfl⟩
    rintro (⟨level, hlevel⟩ | hline)
    · exact s.enclosing_ne_heading level (h.mode.symm.trans hlevel)
    · rw [h.line] at hline
      cases hline
  inked h := by cases h

theorem MidLine.takeTag {run : Nat} {signs : List Sign} (h : MidLine run signs s) (g : Tag) :
    MidLine run (signs ++ [Sign.tag g]) (s.takeTag g).2 := by
  have hinkless : (signs ++ [Sign.tag g]).all Sign.isInkless = signs.all Sign.isInkless := by
    simp [Sign.isInkless]
  have htag : (signs ++ [Sign.tag g]).any Sign.isTag = true := by simp [Sign.isTag]
  by_cases hmove : g.move s.frames = s.frames
  · rw [takeTag_of_move_eq hmove]
    refine ⟨htag.symm, hinkless ▸ h.inkless, fun hinked => ?_⟩
    exact (h.inked (hinkless ▸ hinked)).imp_right fun hzero => ⟨hzero.1, rfl⟩
  · rw [takeTag_of_move_ne hmove]
    refine ⟨htag.symm, fun hall => ?_, fun hinked => .inr ⟨?_, rfl⟩⟩
    · obtain ⟨hempty, hrun⟩ := h.inkless (hinkless ▸ hall)
      refine ⟨?_, (blankRun_closeInline hempty).trans hrun⟩
      rintro (⟨level, hlevel⟩ | hline)
      · exact enclosing_ne_heading _ level hlevel
      · rw [line_closeInline] at hline
        cases hline
    · rcases h.inked (hinkless ▸ hinked) with hholds | ⟨hzero, -⟩
      · exact hholds.blankRun_closeInline
      · by_cases hholds : s.HoldsText
        · exact hholds.blankRun_closeInline
        · exact (blankRun_closeInline hholds).trans hzero

theorem MidLine.takeText {run : Nat} {signs : List Sign} (h : MidLine run signs s) (t : Text) :
    MidLine run (signs ++ t.map .char) (s.takeText t) := by
  have htag : (signs ++ t.map Sign.char).any Sign.isTag = signs.any Sign.isTag := by
    simp [Sign.isTag]
  have hall : (signs ++ t.map Sign.char).all Sign.isInkless
      = (signs.all Sign.isInkless && Text.allBlank t) := by
    rw [List.all_append, List.all_map]
    rfl
  rw [Formatter.takeText]
  dsimp only
  split
  · next level rest hopens =>
    have hink : Text.allBlank t = false := by
      split at hopens
      · cases hopens
      · split at hopens
        · exact allBlank_of_headingMarker? hopens
        · cases hopens
    refine ⟨htag ▸ h.lineHasTag, fun hinkless => ?_, fun _ => .inl (.inl ⟨level, rfl⟩)⟩
    rw [hall, hink, Bool.and_false] at hinkless
    cases hinkless
  · have hline : Text.allBlank (s.line ++ t) = (Text.allBlank s.line && Text.allBlank t) :=
      List.all_append
    refine ⟨htag ▸ h.lineHasTag, fun hinkless => ?_, fun hinked => ?_⟩
    · rw [hall, Bool.and_eq_true] at hinkless
      obtain ⟨hempty, hrun⟩ := h.inkless hinkless.1
      refine ⟨?_, hrun⟩
      rintro (hmode | hheld)
      · exact hempty (.inl hmode)
      · rw [hline, hinkless.2, Bool.and_true] at hheld
        exact hempty (.inr hheld)
    · rw [hall, Bool.and_eq_false_iff] at hinked
      rcases hinked with hinked | hinked
      · refine (h.inked hinked).imp_left (Or.imp_right fun hheld => ?_)
        rw [hline, hheld, Bool.false_and]
      · exact .inl (.inr (by rw [hline, hinked, Bool.and_false]))

theorem HoldsText.takeNewline (h : s.HoldsText) :
    lineBreaks s.takeNewline.1 = 0 ∧ s.takeNewline.2.blankRun = 0 := by
  rw [Formatter.takeNewline]
  split
  · exact ⟨lineBreaks_closeHeading s _, rfl⟩
  · next hmode =>
    rcases h with ⟨level, hlevel⟩ | hline
    · exact absurd hlevel (hmode level)
    · rw [endLine, hline]
      exact ⟨lineBreaks_takeLine _ _, blankRun_takeLine _ _⟩

theorem takeNewline_of_not_holdsText (h : ¬s.HoldsText) :
    lineBreaks s.takeNewline.1 = (if !s.lineHasTag && 0 < s.blankRun then 1 else 0) ∧
      s.takeNewline.2.blankRun = if s.lineHasTag then s.blankRun else s.blankRun + 1 := by
  rw [HoldsText, not_or, not_exists, Bool.not_eq_false] at h
  rw [Formatter.takeNewline]
  split
  · next level hlevel => exact absurd hlevel (h.1 level)
  · rw [endLine, h.2, if_pos rfl]
    cases htag : s.lineHasTag with
    | true => exact ⟨rfl, rfl⟩
    | false =>
      refine ⟨?_, rfl⟩
      simp only [closeBuffers, Bool.false_eq_true, if_false]
      rw [lineBreaks_append, lineBreaks_buffers, Nat.zero_add]
      by_cases hrun : 0 < s.blankRun
      · simp [hrun, lineBreaks, block]
      · simp [hrun, lineBreaks]

/-- **The end of a line**: the run of blank lines goes on, stays, or has ended. -/
theorem MidLine.takeNewline {run : Nat} {line : Text} (h : MidLine run (Text.signs line) s) :
    lineBreaks s.takeNewline.1 = (if Text.allBlank line && 0 < run then 1 else 0) ∧
      s.takeNewline.2.blankRun = blankRunAfter run line := by
  rw [blankRunAfter, Text.isTagLine, Text.allBlank_eq, ← h.lineHasTag]
  cases hinkless : (Text.signs line).all Sign.isInkless with
  | true =>
    obtain ⟨hempty, hrun⟩ := h.inkless hinkless
    obtain ⟨hbreaks, hafter⟩ := takeNewline_of_not_holdsText hempty
    rw [hbreaks, hafter, hrun]
    cases s.lineHasTag <;> simp
  | false =>
    rcases h.inked hinkless with hholds | ⟨hzero, htag⟩
    · simpa using hholds.takeNewline
    · by_cases hholds : s.HoldsText
      · simpa using hholds.takeNewline
      · obtain ⟨hbreaks, hafter⟩ := takeNewline_of_not_holdsText hholds
        simp [hbreaks, hafter, hzero, htag]

/-! ## Lines -/

/-- The pieces of a line lead to its middle, and make no line break. -/
theorem MidLine.run_append {ps : List Piece} (hps : .newline ∉ ps) {run : Nat} {signs : List Sign}
    (h : MidLine run signs s) :
    MidLine run (signs ++ ps.flatMap Piece.signs) (s.after ps) ∧
      ∀ qs, lineBreaks (s.run (ps ++ qs)) = lineBreaks ((s.after ps).run qs) := by
  induction ps generalizing s signs with
  | nil => exact ⟨(List.append_nil signs).symm ▸ h, fun _ => rfl⟩
  | cons p ps ih =>
    obtain ⟨hp, hps⟩ := not_or.1 (mt List.mem_cons.2 hps)
    have hstep : MidLine run (signs ++ p.signs) (s.step p).2 := by
      rcases p with _ | g | t
      · exact absurd rfl hp
      · exact h.takeTag g
      · exact h.takeText t
    obtain ⟨hmid, hrun⟩ := ih hps hstep
    rw [List.append_assoc] at hmid
    refine ⟨hmid, fun qs => ?_⟩
    rw [List.cons_append, Formatter.run, lineBreaks_append, lineBreaks_step (Ne.symm hp),
      Nat.zero_add, hrun]
    rfl

/-- **The line breaks of lines** that start behind a run of blank lines; the last line does not
end. -/
theorem FreshLine.lineBreaks_run (hs : s.Coherent) (h : s.FreshLine) {lines : List Text}
    (hne : lines ≠ []) (hlines : ∀ line ∈ lines, '\n' ∉ line) :
    lineBreaks (s.run (Text.pieces (Text.join ['\n'] lines)))
      = breaksFrom s.blankRun lines.dropLast := by
  induction lines generalizing s with
  | nil => exact absurd rfl hne
  | cons line lines ih =>
    have hpieces := Text.newline_notMem_pieces (hlines line List.mem_cons_self)
    obtain ⟨hmid, hrun⟩ := h.midLine.run_append hpieces
    rw [List.nil_append, ← Text.signs_eq_flatMap_pieces] at hmid
    rcases lines with _ | ⟨next, lines⟩
    · have hlast := hrun []
      rw [List.append_nil] at hlast
      rw [Text.join_singleton, hlast]
      exact lineBreaks_closeInline _
    · obtain ⟨hbreaks, hafter⟩ := hmid.takeNewline
      have hcoherent := hs.after (Text.pieces line)
      have ih := ih hcoherent.takeNewline hcoherent.freshLine_takeNewline
        (List.cons_ne_nil next lines) fun l hl => hlines l (List.mem_cons_of_mem line hl)
      rw [Text.join_cons_cons, List.append_assoc, List.singleton_append,
        Text.pieces_append_newline, hrun, Formatter.run, lineBreaks_append, Formatter.step, ih,
        hbreaks, hafter]
      rfl

end Formatter

/-! ## In a text -/

/-- **Every extra blank line is a line break**, if lines of tags do not count as lines: the line
breaks of a text are the extra blank lines of its lines without the lines of tags.  The last line,
which has no newline behind it, is never blank.  They are the extra blank lines of all its lines
exactly when nowhere lines of tags alone divide two blank lines. -/
theorem lineBreaks_formatBlocks (t : Text) :
    lineBreaks (formatBlocks t)
        = extraBlankLines ((Text.lines t).dropLast.filter (!Text.isTagLine ·)) ∧
      (lineBreaks (formatBlocks t) = extraBlankLines (Text.lines t).dropLast ↔
        ¬TagsDivideBlanks (Text.lines t).dropLast) := by
  have hjoin : Text.join ['\n'] (Text.lines t) = Text.unixLines t := Text.join_splitOn '\n' _
  have hrun := Formatter.FreshLine.lineBreaks_run .init .init (Text.splitOn_ne_nil '\n' _)
    fun line hline hmem => (Text.mem_of_mem_splitOn (t := Text.unixLines t) hline '\n' hmem).2 rfl
  have hbreaks : lineBreaks (formatBlocks t)
      = extraBlankLines ((Text.lines t).dropLast.filter (!Text.isTagLine ·)) := by
    rw [formatBlocks, ← hjoin]
    exact hrun.trans (breaksFrom_zero _)
  refine ⟨hbreaks, ?_⟩
  rw [hbreaks]
  exact (extraBlankLines_filter _).2

/-- A tag on a line of its own between two blank lines: neither of them is extra, and yet the second
makes a line break. -/
theorem lineBreaks_tagLine_ne :
    lineBreaks (formatBlocks "a\n\n~center~\n\nb".toList)
      ≠ extraBlankLines (Text.lines "a\n\n~center~\n\nb".toList).dropLast := by
  decide +kernel

end Conveyance
