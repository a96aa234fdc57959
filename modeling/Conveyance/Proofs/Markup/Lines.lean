import Conveyance.Proofs.Markup.Tagged

/-!
# Proofs/Markup/Lines — a text without tags is read line by line

Where no tag is written, a tilde is a character like any other, and the formatter sees nothing but
whole lines.  `Formatter.lineStep` takes one line and `runLines` the lines of a text; a text that
has no tags and no headings **has the blocks of its lines** (`formatBlocks_eq_runLines`).
-/

namespace Conveyance

namespace Text

/-- After spaces and tabs, a text does not start with a number sign. -/
def Unmarked (t : Text) : Prop := (t.dropWhile fun c => c == ' ' || c == '\t').head? ≠ some '#'

/-- The lines of a text. -/
def lines (t : Text) : List Text := splitOn '\n' (unixLines t)

/-- Only a carriage return is looked at together with what follows it. -/
theorem unixLines_cons {c : Char} (hc : c ≠ '\r') (t : Text) :
    unixLines (c :: t) = c :: unixLines t := by
  rw [unixLines]
  rintro _ rfl
  exact absurd rfl hc

theorem unixLines_append_of_notMem {s : Text} (h : '\r' ∉ s) (t : Text) :
    unixLines (s ++ t) = s ++ unixLines t := by
  induction s with
  | nil => rfl
  | cons c s ih =>
    rw [List.cons_append, unixLines_cons (List.ne_of_not_mem_cons h).symm,
      ih (List.not_mem_of_not_mem_cons h), List.cons_append]

theorem unixLines_of_notMem {t : Text} (h : '\r' ∉ t) : unixLines t = t := by
  simpa [unixLines] using unixLines_append_of_notMem h []

theorem getLast?_cons_of_getLast? {t : Text} {d : Char} (h : t.getLast? = some d) (c : Char) :
    (c :: t).getLast? = some d := by
  rw [List.getLast?_cons, h]
  rfl

/-- Only a carriage return at the end joins what follows. -/
theorem unixLines_append {s t : Text} (h : ¬ (s.getLast? = some '\r' ∧ t.head? = some '\n')) :
    unixLines (s ++ t) = unixLines s ++ unixLines t := by
  fun_induction unixLines s with
  | case1 => rfl
  | case2 s ih =>
    rw [List.cons_append, List.cons_append, unixLines, List.cons_append, ih fun hs => h ⟨?_, hs.2⟩]
    exact getLast?_cons_of_getLast? (getLast?_cons_of_getLast? hs.1 _) _
  | case3 c s hc ih =>
    have hcons : unixLines (c :: (s ++ t)) = c :: unixLines (s ++ t) := by
      rw [unixLines]
      rintro u rfl hu
      rcases s with _ | ⟨d, s⟩
      · exact h ⟨rfl, by rw [← List.nil_append t, hu]; rfl⟩
      · exact hc s rfl (congrArg (· :: s) (List.cons.inj hu).1)
    rw [List.cons_append, hcons, ih fun hs => h ⟨getLast?_cons_of_getLast? hs.1 c, hs.2⟩,
      List.cons_append]

theorem unixLines_append_newline {s : Text} (hs : s.getLast? ≠ some '\r') (t : Text) :
    unixLines (s ++ '\n' :: t) = unixLines s ++ '\n' :: unixLines t := by
  rw [unixLines_append fun h => hs h.1, unixLines_cons (by decide)]

theorem unixLines_cons_append {c : Char} {s : Text} (hlast : ¬ (c = '\r' ∧ s = []))
    (hpair : ∀ u, c = '\r' → s ≠ '\n' :: u) (t : Text) :
    unixLines (c :: (s ++ '\n' :: t)) = c :: unixLines (s ++ '\n' :: t) := by
  rw [unixLines]
  intro u hreturn hu
  rcases s with _ | ⟨d, s⟩
  · exact hlast ⟨hreturn, rfl⟩
  · obtain rfl : d = '\n' := (List.cons.inj hu).1
    exact hpair s hreturn rfl

/-- **A newline ends its line**: what stands before it does not change what follows. -/
theorem exists_unixLines_append (s : Text) : ∃ s', (∀ c ∈ s', c ∈ s) ∧
    ∀ t, unixLines (s ++ '\n' :: t) = s' ++ '\n' :: unixLines t := by
  fun_induction unixLines s with
  | case1 => exact ⟨[], by simp, fun t => unixLines_cons (by decide) t⟩
  | case2 s ih =>
    obtain ⟨s', hmem, happend⟩ := ih
    refine ⟨'\n' :: s', fun c hc => ?_, fun t => ?_⟩
    · rcases List.mem_cons.1 hc with rfl | hc
      · simp
      · exact List.mem_cons_of_mem _ (List.mem_cons_of_mem _ (hmem c hc))
    · rw [List.cons_append, List.cons_append, unixLines, happend, List.cons_append]
  | case3 c s hc ih =>
    obtain ⟨s', hmem, happend⟩ := ih
    by_cases hlast : c = '\r' ∧ s = []
    · -- a carriage return at the very end goes into the newline
      obtain ⟨rfl, rfl⟩ := hlast
      exact ⟨[], by simp, fun t => by rw [List.singleton_append, unixLines]; rfl⟩
    · refine ⟨c :: s', fun d hd => ?_, fun t => ?_⟩
      · rcases List.mem_cons.1 hd with rfl | hd
        · exact List.mem_cons_self
        · exact List.mem_cons_of_mem c (hmem d hd)
      · have hcons := unixLines_cons_append hlast (fun u h hs => hc u h hs) t
        rw [List.cons_append, hcons, happend, List.cons_append]

theorem mem_of_mem_unixLines {t : Text} {c : Char} (h : c ∈ unixLines t) : c ∈ t := by
  fun_induction unixLines t with
  | case1 => exact h
  | case2 t ih =>
    rcases List.mem_cons.1 h with rfl | h
    · simp
    · exact List.mem_cons_of_mem _ (List.mem_cons_of_mem _ (ih h))
  | case3 d t _ ih =>
    rcases List.mem_cons.1 h with rfl | h
    · exact List.mem_cons_self
    · exact List.mem_cons_of_mem d (ih h)

theorem mem_of_mem_lines {t line : Text} (h : line ∈ lines t) {c : Char} (hc : c ∈ line) :
    c ∈ t :=
  mem_of_mem_unixLines (mem_of_mem_splitOn h c hc).1

/-- **The lines before a newline stand before the lines after it.** -/
theorem exists_lines_append (s : Text) : ∃ before, before ≠ [] ∧
    (∀ line ∈ before, ∀ c ∈ line, c ∈ s) ∧
    ∀ t, lines (s ++ '\n' :: t) = before ++ lines t := by
  obtain ⟨s', hmem, happend⟩ := exists_unixLines_append s
  refine ⟨splitOn '\n' s', splitOn_ne_nil _ _, fun line hline c hc => ?_, fun t => ?_⟩
  · exact hmem c (mem_of_mem_splitOn hline c hc).1
  · rw [lines, happend, splitOn_append_cons, lines]

/-- A text is untagged when no line of it has a tilde. -/
theorem untagged_unixLines {t : Text} (h : ∀ line ∈ lines t, '~' ∉ line) :
    Untagged (unixLines t) := by
  refine untagged_of_notMem fun hmem => ?_
  rw [← join_splitOn '\n' (unixLines t)] at hmem
  rcases mem_join hmem with hmem | ⟨line, hline, hmem⟩
  · simp at hmem
  · exact h line hline hmem

/-- What an unmarked text starts with is unmarked. -/
theorem Unmarked.of_append {s t : Text} (h : Unmarked (s ++ t)) : Unmarked s := by
  intro hs
  refine h ?_
  rw [List.dropWhile_append]
  obtain ⟨rest, hrest⟩ := List.head?_eq_some_iff.1 hs
  rw [hrest]
  rfl

theorem headingMarker?_eq_none {t : Text} (h : Unmarked t) : headingMarker? t = none := by
  have hlevel : ((t.dropWhile fun c => c == ' ' || c == '\t').takeWhile (· == '#')).length = 0 := by
    rw [Unmarked] at h
    generalize t.dropWhile _ = u at h ⊢
    rcases u with _ | ⟨c, u⟩
    · rfl
    · have hc : c ≠ '#' := fun hc => h (by rw [hc]; rfl)
      rw [List.takeWhile_cons, if_neg (by simpa using hc)]
      rfl
  simp only [headingMarker?, hlevel]
  rfl

/-- A run goes on to the end of its line or to a tilde. -/
theorem pieces_cons_of_read?_eq_none {c : Char} {t : Text} (hc : c ≠ '\n')
    (h : Tag.read? (c :: t) = none) :
    pieces (c :: t)
      = .text (c :: t.takeWhile Piece.inRun) :: pieces (t.dropWhile Piece.inRun) := by
  rw [pieces, if_neg hc]
  split
  · next h' => rw [h] at h'; cases h'
  · rfl

theorem pieces_newline (t : Text) : pieces ('\n' :: t) = .newline :: pieces t := by
  rw [pieces, if_pos rfl]

end Text

namespace Formatter

/-! ## One line -/

/-- Plain text put to the current line. -/
def putText (s : Formatter) (t : Text) : Formatter :=
  { s with line := s.line ++ t, lineHasText := s.lineHasText || !Text.allBlank t }

theorem putText_append (s : Formatter) (t u : Text) :
    (s.putText t).putText u = s.putText (t ++ u) := by
  simp [putText, Text.allBlank, Bool.not_and, Bool.or_assoc]

/-- Only a marker at the start of its line opens a heading. -/
theorem takeText_eq_putText {s : Formatter} {run : Text}
    (h : s.line ≠ [] ∨ Text.Unmarked run) : s.takeText run = s.putText run := by
  have hopens : (if !s.lineHasText && s.line.isEmpty then headingMarker? run else none) = none := by
    rcases h with h | h
    · rw [List.isEmpty_eq_false_iff.2 h, Bool.and_false]
      rfl
    · rw [Text.headingMarker?_eq_none h, ite_self]
  simp only [takeText, hopens]
  split
  · next h =>
    split at h <;> simp at h
  · rfl

/-- A run ends with its line. -/
theorem span_append {rest : Text} (hrest : ∀ c ∈ rest.head?, c = '\n') (t : Text) :
    (t ++ rest).takeWhile Piece.inRun = t.takeWhile Piece.inRun ∧
      (t ++ rest).dropWhile Piece.inRun = t.dropWhile Piece.inRun ++ rest := by
  induction t with
  | nil =>
    rcases rest with _ | ⟨c, rest⟩
    · exact ⟨rfl, rfl⟩
    · have hc : Piece.inRun c = false := by
        rw [hrest c rfl]
        rfl
      rw [List.nil_append, List.takeWhile_cons, List.dropWhile_cons, hc]
      exact ⟨rfl, rfl⟩
  | cons c t ih =>
    rw [List.cons_append, List.takeWhile_cons, List.takeWhile_cons, List.dropWhile_cons,
      List.dropWhile_cons, ih.1, ih.2]
    split
    · exact ⟨rfl, rfl⟩
    · exact ⟨rfl, rfl⟩

/-- The first run of a line is a part of the line. -/
theorem pieces_cons_append {c : Char} (hc : c ≠ '\n') {t rest : Text}
    (hrest : ∀ c ∈ rest.head?, c = '\n') (h : Tag.read? (c :: (t ++ rest)) = none) :
    Text.pieces (c :: (t ++ rest)) = .text (c :: t.takeWhile Piece.inRun)
      :: Text.pieces (t.dropWhile Piece.inRun ++ rest) := by
  obtain ⟨hrun, hleft⟩ := span_append hrest t
  rw [Text.pieces_cons_of_read?_eq_none hc h, hrun, hleft]

/-- **The rest of a line is put to it**, in however many runs it falls. -/
theorem run_pieces_append {rest : Text} (hrest : ∀ c ∈ rest.head?, c = '\n') (s : Formatter)
    (t : Text) (hline : '\n' ∉ t) (hmark : s.line ≠ [] ∨ Text.Unmarked t)
    (htag : Text.Untagged (t ++ rest)) :
    s.run (Text.pieces (t ++ rest)) = (s.putText t).run (Text.pieces rest) := by
  -- By induction on the length: the first run of the line is a part of it.
  induction h : t.length using Nat.strongRecOn generalizing s t with
  | ind n ih =>
    rcases t with _ | ⟨c, t⟩
    · have hnil : s.putText [] = s := by simp [putText, Text.allBlank]
      rw [hnil, List.nil_append]
    · have hc : c ≠ '\n' := fun hc => hline (hc ▸ List.mem_cons_self)
      have hpieces := pieces_cons_append hc hrest htag.read?_eq_none
      generalize hu : t.takeWhile Piece.inRun = u at hpieces
      generalize hv : t.dropWhile Piece.inRun = v at hpieces
      obtain rfl : t = u ++ v := by rw [← hu, ← hv, List.takeWhile_append_dropWhile]
      have hmark' : s.line ≠ [] ∨ Text.Unmarked (c :: u) :=
        hmark.imp_right fun h => Text.Unmarked.of_append (s := c :: u) (t := v) h
      have hlt : v.length < n := by
        rw [← h, List.length_cons, List.length_append]
        omega
      have htail : (s.putText (c :: u)).run (Text.pieces (v ++ rest))
          = ((s.putText (c :: u)).putText v).run (Text.pieces rest) := by
        refine ih v.length hlt _ v (fun hmem => hline ?_) (.inl ?_) (htag.of_infix ?_) rfl
        · exact List.mem_cons_of_mem c (List.mem_append_right u hmem)
        · simp [putText]
        · exact ⟨c :: u, [], by simp⟩
      calc s.run (Text.pieces (c :: (u ++ v ++ rest)))
          = (s.takeText (c :: u)).run (Text.pieces (v ++ rest)) := by
            rw [hpieces]
            rfl
        _ = (s.putText (c :: (u ++ v))).run (Text.pieces rest) := by
            rw [takeText_eq_putText hmark', htail, putText_append]
            rfl

/-! ## Line after line -/

/-- The state at the start of a line, outside all frames: what is open is a paragraph, a table or
neither. -/
structure AtLineStart (s : Formatter) : Prop where
  frames : s.frames = []
  mode : s.mode = .normal
  line : s.line = []
  lineHasTag : s.lineHasTag = false
  lineHasText : s.lineHasText = false

theorem AtLineStart.init : AtLineStart {} := ⟨rfl, rfl, rfl, rfl, rfl⟩

/-- **One line**: the blocks that it completes, and what is open after it. -/
def lineStep (s : Formatter) (line : Text) : List Block × Formatter :=
  { s with line := line }.endLine

/-- The blocks of the lines that follow a state; the last one has no line end. -/
def runLines (s : Formatter) : List Text → List Block
  | [] => s.finish
  | [line] => { s with line := line }.finish
  | line :: next :: lines => (s.lineStep line).1 ++ runLines (s.lineStep line).2 (next :: lines)

/-- At the start of a line only a paragraph, a table and blank lines are known. -/
theorem AtLineStart.eq {s : Formatter} (h : s.AtLineStart) :
    s = { paragraph := s.paragraph, table := s.table, blankRun := s.blankRun } := by
  obtain ⟨frames, mode, line, lineHasTag, lineHasText, paragraph, table, blankRun⟩ := s
  obtain ⟨rfl, rfl, rfl, rfl, rfl⟩ := h
  rfl

theorem AtLineStart.lineStep {s : Formatter} (h : s.AtLineStart) (line : Text) :
    (s.lineStep line).2.AtLineStart := by
  rw [h.eq, Formatter.lineStep, endLine]
  split
  · exact ⟨rfl, rfl, rfl, rfl, rfl⟩
  · rw [takeLine]
    split
    · exact ⟨rfl, rfl, rfl, rfl, rfl⟩
    · exact ⟨rfl, rfl, rfl, rfl, rfl⟩

/-- The end of a line does not ask whether the line carried text. -/
theorem endLine_lineHasText (s : Formatter) (b : Bool) :
    { s with lineHasText := b }.endLine
      = (s.endLine.1, { s.endLine.2 with lineHasText := b }) := by
  simp only [endLine, takeLine]
  by_cases hblank : Text.allBlank s.line = true
  · by_cases htag : s.lineHasTag = true
    · simp only [if_pos hblank, if_pos htag]
    · simp only [if_pos hblank, if_neg htag]
      rfl
  · by_cases hrow : Row.isRow s.line = true
    · simp only [if_neg hblank, if_pos hrow]
      rfl
    · simp only [if_neg hblank, if_neg hrow]
      rfl

/-- At the start of a line, a line and its end are one step. -/
theorem AtLineStart.takeNewline_putText {s : Formatter} (h : s.AtLineStart) (line : Text) :
    (s.putText line).takeNewline = s.lineStep line := by
  have hput : s.putText line = { s with line := line, lineHasText := !Text.allBlank line } := by
    rw [h.eq]
    rfl
  have hend := endLine_lineHasText { s with line := line } (!Text.allBlank line)
  have hstart := h.lineStep line
  rw [Formatter.lineStep] at hstart ⊢
  rw [hput, takeNewline]
  simp only [h.mode] at hend hstart ⊢
  rw [hend]
  generalize Formatter.endLine _ = ended at hstart ⊢
  obtain ⟨blocks, t⟩ := ended
  have hstart : t.AtLineStart := hstart
  rw [hstart.eq]

theorem AtLineStart.finish_putText {s : Formatter} (h : s.AtLineStart) (line : Text) :
    (s.putText line).finish = { s with line := line }.finish := by
  have hput : s.putText line = { s with line := line, lineHasText := !Text.allBlank line } := by
    rw [h.eq]
    rfl
  rw [hput, finish, finish, closeInline, closeInline]
  simp only [h.mode, takeLine]
  by_cases hblank : Text.allBlank line = true
  · simp only [if_pos hblank]
    rfl
  · by_cases hrow : Row.isRow line = true
    · simp only [if_neg hblank, if_pos hrow]
      rfl
    · simp only [if_neg hblank, if_neg hrow]
      rfl

/-- **The blocks of lines joined are the blocks of the lines.** -/
theorem run_pieces_join {lines : List Text} (hne : lines ≠ []) {s : Formatter}
    (hs : s.AtLineStart) (hlines : ∀ line ∈ lines, '\n' ∉ line ∧ Text.Unmarked line)
    (htag : Text.Untagged (Text.join ['\n'] lines)) :
    s.run (Text.pieces (Text.join ['\n'] lines)) = s.runLines lines := by
  induction lines generalizing s with
  | nil => exact absurd rfl hne
  | cons line lines ih =>
    obtain ⟨hline, hmark⟩ := hlines line List.mem_cons_self
    rcases lines with _ | ⟨next, lines⟩
    · have htag' : Text.Untagged (line ++ []) := by simpa using htag
      have hrun := run_pieces_append (by simp) s line hline (.inr hmark) htag'
      rw [List.append_nil, Text.pieces, run, hs.finish_putText] at hrun
      rw [Text.join_singleton, hrun, runLines]
    · rw [Text.join_cons_cons, List.append_assoc, List.singleton_append] at htag ⊢
      have ih := ih (List.cons_ne_nil next lines) (hs.lineStep line)
        (fun l hl => hlines l (List.mem_cons_of_mem line hl))
        (htag.of_infix ⟨line ++ ['\n'], [], by simp⟩)
      rw [run_pieces_append (by simp) s line hline (.inr hmark) htag, Text.pieces_newline, run,
        Formatter.step, hs.takeNewline_putText, ih, runLines]

end Formatter

/-- **A text without tags and headings has the blocks of its lines.** -/
theorem formatBlocks_eq_runLines {t : Text} (htag : Text.Untagged (Text.unixLines t))
    (hmark : ∀ line ∈ Text.lines t, Text.Unmarked line) :
    formatBlocks t = ({} : Formatter).runLines (Text.lines t) := by
  have hjoin : Text.join ['\n'] (Text.lines t) = Text.unixLines t := Text.join_splitOn '\n' _
  rw [formatBlocks, ← hjoin]
  refine Formatter.run_pieces_join (Text.splitOn_ne_nil '\n' _) .init (fun line hline => ?_) ?_
  · exact ⟨fun hmem => (Text.mem_of_mem_splitOn hline '\n' hmem).2 rfl, hmark line hline⟩
  · exact hjoin.symm ▸ htag

end Conveyance
