import Conveyance.Proofs.Markup.LineBreak

/-!
# Proofs/Markup/Parting — a blank line parts a text in two

Between two lines of text a blank line ends everything: what stands above it and what stands below
have the blocks that they would have alone (`formatBlocks_append_blankLine`), as long as no frame is
left open above.  Behind the blank line the formatter is back where it starts **but for the count of
blank lines** (`Coherent.run_blankLine`); the line of text below starts that count again before it
is read (`AgreeButRun.run_eq`).
-/

namespace Conveyance

namespace Text

/-- The line holds ink outside its tags. -/
def HasInk (line : Text) : Prop := ∃ c, Sign.char c ∈ signs line ∧ isBlank c = false

/-- The last line of the text holds ink. -/
def EndsWithInk (t : Text) : Prop := ∃ line, (lines t).getLast? = some line ∧ line.HasInk

/-- The first line of the text holds ink. -/
def StartsWithInk (t : Text) : Prop := ∃ line, (lines t).head? = some line ∧ line.HasInk

/-- The frames that are open at the end of the text, the innermost first. -/
def openFrames (t : Text) : List Alignment := Sign.framesAfter [] (signs (unixLines t))

theorem hasInk_iff {line : Text} :
    line.HasInk ↔ (signs line).all Sign.isInkless = false := by
  rw [List.all_eq_false]
  constructor
  · rintro ⟨c, hc, hink⟩
    exact ⟨_, hc, by simp [Sign.isInkless, hink]⟩
  · rintro ⟨g | c, hs, hink⟩
    · exact absurd rfl hink
    · exact ⟨c, hs, Bool.eq_false_iff.2 hink⟩

/-- The last line stands behind a newline, or is the whole text. -/
theorem exists_eq_append_of_getLast?_lines {t line : Text} (h : (lines t).getLast? = some line) :
    '\n' ∉ line ∧
      ∃ before, unixLines t = before ++ line ∧ (before = [] ∨ before.getLast? = some '\n') := by
  obtain ⟨above, hlines⟩ := List.getLast?_eq_some_iff.1 h
  have hmem : line ∈ splitOn '\n' (unixLines t) := List.mem_of_getLast? h
  have hjoin : join ['\n'] (lines t) = unixLines t := join_splitOn '\n' _
  refine ⟨fun hline => (mem_of_mem_splitOn hmem '\n' hline).2 rfl, ?_⟩
  rw [hlines] at hjoin
  by_cases habove : above = []
  · rw [habove, List.nil_append, join_singleton] at hjoin
    exact ⟨[], hjoin.symm, .inl rfl⟩
  · rw [join_concat _ _ habove] at hjoin
    exact ⟨_, hjoin.symm, .inr List.getLast?_concat⟩

/-- The first line stands before a newline, or is the whole text. -/
theorem eq_or_exists_of_head?_lines {t line : Text} (h : (lines t).head? = some line) :
    '\n' ∉ line ∧ (unixLines t = line ∨ ∃ below, unixLines t = line ++ '\n' :: below) := by
  obtain ⟨below, hlines⟩ := List.head?_eq_some_iff.1 h
  have hmem : line ∈ splitOn '\n' (unixLines t) := List.mem_of_head? h
  have hjoin : join ['\n'] (lines t) = unixLines t := join_splitOn '\n' _
  refine ⟨fun hline => (mem_of_mem_splitOn hmem '\n' hline).2 rfl, ?_⟩
  rw [hlines] at hjoin
  rcases below with _ | ⟨next, below⟩
  · rw [join_singleton] at hjoin
    exact .inl hjoin.symm
  · rw [join_cons_cons, List.append_assoc] at hjoin
    exact .inr ⟨_, hjoin.symm⟩

end Text

namespace Formatter

variable {s t : Formatter}

/-! ## Above the blank line -/

theorem frames_after (s : Formatter) (ps : List Piece) :
    (s.after ps).frames = Sign.framesAfter s.frames (ps.flatMap Piece.signs) := by
  induction ps generalizing s with
  | nil => rfl
  | cons p ps ih =>
    have hstep : (s.step p).2.frames = Sign.framesAfter s.frames p.signs :=
      (congrArg OpenFragment.frames (s.openFragment_step p)).trans (s.openFragment.frames_step p)
    rw [List.flatMap_cons, Sign.framesAfter_append, ← hstep]
    exact ih _

/-- **A line that is not blank** gives out at its end all that the end of the text would, but for
what it leaves open. -/
theorem finish_eq_takeNewline (h : s.HoldsText ∨ s.lineHasTag = true) :
    s.finish = s.takeNewline.1
      ++ (s.takeNewline.2.paragraphBlock ++ s.takeNewline.2.tableBlock) := by
  rw [finish, closeInline, takeNewline]
  split
  · simp [closeHeading, paragraphBlock, tableBlock]
  · next hmode =>
    rw [endLine]
    cases hline : Text.allBlank s.line with
    | true =>
      have htag : s.lineHasTag = true := by
        rcases h with (⟨level, hlevel⟩ | hink) | htag
        · exact absurd hlevel (hmode level)
        · rw [hline] at hink
          cases hink
        · exact htag
      simp only [htag, if_true]
      rfl
    | false => rfl

/-- **A blank line leaves nothing behind** but that it was there. -/
theorem FreshLine.run_newline_eq (h : s.FreshLine) (hframes : s.frames = [])
    (hrun : s.blankRun = 0) (ps : List Piece) :
    s.run (.newline :: ps)
      = s.paragraphBlock ++ s.tableBlock ++ ({ blankRun := 1 } : Formatter).run ps := by
  obtain ⟨frames, mode, line, lineHasTag, lineHasText, paragraph, table, blankRun⟩ := s
  obtain ⟨hmode, rfl, rfl, rfl⟩ := h
  obtain rfl := hframes
  obtain rfl := hrun
  obtain rfl : mode = .normal := hmode
  have hstep : Formatter.step ⟨[], .normal, [], false, false, paragraph, table, 0⟩ .newline
      = (paragraphBlock ⟨[], .normal, [], false, false, paragraph, table, 0⟩
          ++ tableBlock ⟨[], .normal, [], false, false, paragraph, table, 0⟩,
        { blankRun := 1 }) := by
    simp [step, takeNewline, endLine, Text.allBlank, closeBuffers, paragraphBlock, tableBlock,
      block, alignment]
  rw [run, hstep]

/-- **A line of text and a blank line end a text**: what follows them is read as if it started the
text, behind one blank line. -/
theorem Coherent.run_blankLine (hs : s.Coherent) (hframes : s.frames = [])
    (h : s.HoldsText ∨ s.blankRun = 0 ∧ s.lineHasTag = true) (ps : List Piece) :
    s.run (.newline :: .newline :: ps) = s.finish ++ ({ blankRun := 1 } : Formatter).run ps := by
  have hblankRun : s.takeNewline.2.blankRun = 0 := by
    by_cases hholds : s.HoldsText
    · exact hholds.takeNewline.2
    · obtain ⟨hzero, htag⟩ := h.resolve_left hholds
      rw [(takeNewline_of_not_holdsText hholds).2, if_pos htag, hzero]
  have hfresh := hs.freshLine_takeNewline
  rw [run, Formatter.step, hfresh.run_newline_eq (s.frames_takeNewline.trans hframes) hblankRun,
    finish_eq_takeNewline (h.imp_right And.right)]
  simp only [List.append_assoc]

/-! ## Below the blank line -/

/-- The two formatters differ in nothing but their count of blank lines. -/
def AgreeButRun (s t : Formatter) : Prop := ∃ n, t = { s with blankRun := n }

theorem AgreeButRun.holdsText (h : AgreeButRun s t) : t.HoldsText ↔ s.HoldsText := by
  obtain ⟨n, rfl⟩ := h
  exact Iff.rfl

theorem AgreeButRun.closeInline (h : AgreeButRun s t) :
    t.closeInline.1 = s.closeInline.1 ∧ AgreeButRun s.closeInline.2 t.closeInline.2 := by
  obtain ⟨n, rfl⟩ := h
  obtain ⟨frames, mode, line, lineHasTag, lineHasText, paragraph, table, blankRun⟩ := s
  cases mode with
  | heading level => exact ⟨rfl, 0, rfl⟩
  | normal | aligned =>
    simp only [Formatter.closeInline]
    cases Text.allBlank line with
    | true => exact ⟨rfl, n, rfl⟩
    | false => exact ⟨rfl, _, rfl⟩

theorem AgreeButRun.takeText (h : AgreeButRun s t) (run : Text) :
    AgreeButRun (s.takeText run) (t.takeText run) := by
  obtain ⟨n, rfl⟩ := h
  refine ⟨n, (s.takeText_set s.table n run).trans ?_⟩
  rw [← s.table_takeText run]

/-- **Within a line nothing depends on the count.** -/
theorem AgreeButRun.step (h : AgreeButRun s t) {p : Piece} (hp : p ≠ .newline) :
    (t.step p).1 = (s.step p).1 ∧ AgreeButRun (s.step p).2 (t.step p).2 := by
  rcases p with _ | g | run
  · exact absurd rfl hp
  · have hframes : t.frames = s.frames := by
      obtain ⟨n, rfl⟩ := h
      rfl
    rw [Formatter.step, Formatter.step]
    by_cases hmove : g.move s.frames = s.frames
    · rw [takeTag_of_move_eq hmove, takeTag_of_move_eq (hframes ▸ hmove)]
      obtain ⟨n, rfl⟩ := h
      exact ⟨rfl, n, rfl⟩
    · rw [takeTag_of_move_ne hmove, takeTag_of_move_ne (hframes ▸ hmove), hframes]
      obtain ⟨hblocks, n, hn⟩ := h.closeInline
      refine ⟨hblocks, n, ?_⟩
      rw [hn]
      rfl
  · exact ⟨rfl, h.takeText run⟩

/-- Two such formatters give out the same within a line, and stay so. -/
theorem AgreeButRun.run_append (h : AgreeButRun s t) {ps : List Piece} (hps : .newline ∉ ps) :
    AgreeButRun (s.after ps) (t.after ps) ∧
      ∀ qs, (t.after ps).run qs = (s.after ps).run qs → t.run (ps ++ qs) = s.run (ps ++ qs) := by
  induction ps generalizing s t with
  | nil => exact ⟨h, fun _ hqs => hqs⟩
  | cons p ps ih =>
    obtain ⟨hp, hps⟩ := not_or.1 (mt List.mem_cons.2 hps)
    obtain ⟨hblocks, hstep⟩ := h.step (Ne.symm hp)
    obtain ⟨hafter, hrun⟩ := ih hstep hps
    refine ⟨hafter, fun qs hqs => ?_⟩
    rw [List.cons_append, run, run, hblocks, hrun qs hqs]

/-- **A line of text ends the count**: behind it the two are the same. -/
theorem AgreeButRun.takeNewline_eq (h : AgreeButRun s t)
    (hs : s.HoldsText ∨ s.blankRun = 0 ∧ s.lineHasTag = true)
    (ht : t.HoldsText ∨ t.blankRun = 0 ∧ t.lineHasTag = true) : t.takeNewline = s.takeNewline := by
  have hholdsText := h.holdsText
  obtain ⟨n, rfl⟩ := h
  by_cases hholds : s.HoldsText
  · obtain ⟨frames, mode, line, lineHasTag, lineHasText, paragraph, table, blankRun⟩ := s
    cases mode with
    | heading level => rfl
    | normal | aligned =>
      have hink : Text.allBlank line = false := hholds.resolve_left (by simp)
      simp only [Formatter.takeNewline, endLine, hink]
      rfl
  · obtain ⟨hzero, -⟩ := hs.resolve_left hholds
    obtain ⟨rfl, -⟩ := ht.resolve_left (mt hholdsText.1 hholds)
    rw [← hzero]

/-- **A text whose first line holds ink does not depend on the count.** -/
theorem AgreeButRun.run_eq (h : AgreeButRun s t) (hs : s.FreshLine) (ht : t.FreshLine) {u : Text}
    (hu : u.StartsWithInk) :
    t.run (Text.pieces (Text.unixLines u)) = s.run (Text.pieces (Text.unixLines u)) := by
  obtain ⟨line, hhead, hink⟩ := hu
  obtain ⟨hnewline, hline⟩ := Text.eq_or_exists_of_head?_lines hhead
  have hpieces := Text.newline_notMem_pieces hnewline
  obtain ⟨hafter, hrun⟩ := h.run_append hpieces
  rcases hline with hline | ⟨below, hline⟩
  · have hend := hrun [] hafter.closeInline.1
    rwa [List.append_nil, ← hline] at hend
  · have hinked := Text.hasInk_iff.1 hink
    rw [Text.signs_eq_flatMap_pieces] at hinked
    have hmid := (hs.midLine.run_append hpieces).1.inked hinked
    have hmid' := (ht.midLine.run_append hpieces).1.inked hinked
    rw [hline, Text.pieces_append_newline]
    refine hrun _ ?_
    rw [run, run, Formatter.step, Formatter.step, hafter.takeNewline_eq hmid hmid']

end Formatter

/-! ## In a text -/

/-- At the end of a text whose last line holds ink, ink waits, or a tag has taken it. -/
theorem Text.EndsWithInk.waits {t : Text} (h : t.EndsWithInk) :
    let s := ({} : Formatter).after (pieces (unixLines t))
    s.HoldsText ∨ s.blankRun = 0 ∧ s.lineHasTag = true := by
  obtain ⟨line, hlast, hink⟩ := h
  obtain ⟨hnewline, before, hbefore, hstart⟩ := exists_eq_append_of_getLast?_lines hlast
  have hinked := hasInk_iff.1 hink
  rw [signs_eq_flatMap_pieces] at hinked
  have hfresh := Formatter.freshLine_after_pieces hstart
  rw [hbefore, pieces_append_of_getLast? hstart, Formatter.after, List.foldl_append]
  exact (hfresh.midLine.run_append (newline_notMem_pieces hnewline)).1.inked hinked

/-- **A blank line parts a text in two.**  Where the last line above and the first line below hold
ink outside their tags, no frame is open above, and the text above does not end in a carriage
return, the blocks of the whole are the blocks of the two parts. -/
theorem formatBlocks_append_blankLine {a b : Text} (ha : a.EndsWithInk) (hb : b.StartsWithInk)
    (hframes : a.openFrames = []) (hreturn : a.getLast? ≠ some '\r') :
    formatBlocks (a ++ '\n' :: '\n' :: b) = formatBlocks a ++ formatBlocks b := by
  have hcoherent := Formatter.Coherent.init.after (Text.pieces (Text.unixLines a))
  have hopen := Formatter.frames_after {} (Text.pieces (Text.unixLines a))
  rw [← Text.signs_eq_flatMap_pieces] at hopen
  obtain ⟨blocks, hblocks⟩ := ({} : Formatter).exists_run_append (Text.pieces (Text.unixLines a))
  have habove : formatBlocks a
      = blocks ++ (({} : Formatter).after (Text.pieces (Text.unixLines a))).finish := by
    have hend := hblocks []
    rwa [List.append_nil] at hend
  have hbelow : ({ blankRun := 1 } : Formatter).run (Text.pieces (Text.unixLines b))
      = formatBlocks b :=
    Formatter.AgreeButRun.run_eq ⟨1, rfl⟩ .init ⟨rfl, rfl, rfl, rfl⟩ hb
  rw [formatBlocks, Text.unixLines_append_newline hreturn, Text.unixLines_cons (by decide),
    Text.pieces_append_newline, Text.pieces_newline, hblocks,
    hcoherent.run_blankLine (hopen.trans hframes) ha.waits, hbelow, habove, List.append_assoc]

/-- A table and a line in a frame above, a heading below. -/
theorem formatBlocks_append_blankLine_seal :
    formatBlocks ("| Sum |\n~center~Paid~/center~".toList ++ '\n' :: '\n' :: "## Seal".toList)
      = [⟨.table ["Sum".toList] [], .left, "| Sum |".toList⟩,
          ⟨.paragraph, .center, "Paid".toList⟩, ⟨.heading 2, .left, "Seal".toList⟩] := by
  rw [formatBlocks_append_blankLine
    ⟨"~center~Paid~/center~".toList, by decide +kernel, 'P', by decide +kernel, by decide⟩
    ⟨"## Seal".toList, by decide +kernel, '#', by decide +kernel, by decide⟩
    (by decide +kernel) (by decide)]
  decide +kernel

end Conveyance
