import Conveyance.Proofs.Markup.Lines
import Conveyance.Proofs.Markup.WellFormed

/-!
# Proofs/Markup/BlankLine — a blank line behind a table

A line of text ends the table above it, and so does a blank line: **between a row and a line of
text a blank line changes no block**, and neither does one at the end of the text
(`formatBlocks_blankLine`).  The formatter that has read the blank line is the other one with its
table ended (`Formatter.endTable`); the two stay so while they read the line of text and are the
same once it ends.
-/

namespace Conveyance

namespace Text

/-- The text starts with a line of text: its first character is no blank, no bar and no tilde. -/
def OpensLine (t : Text) : Prop :=
  ∃ c rest, t = c :: rest ∧ isBlank c = false ∧ c ≠ '|' ∧ c ≠ '~'

theorem OpensLine.append {t : Text} (h : t.OpensLine) (u : Text) : OpensLine (t ++ u) := by
  obtain ⟨c, rest, rfl, hc⟩ := h
  exact ⟨c, rest ++ u, rfl, hc⟩

theorem OpensLine.of_head? {t u : Text} (h : t.OpensLine) (hhead : u.head? = t.head?) :
    u.OpensLine := by
  obtain ⟨c, rest, rfl, hc⟩ := h
  obtain ⟨rest', rfl⟩ := List.head?_eq_some_iff.1 hhead
  exact ⟨c, rest', rfl, hc⟩

theorem OpensLine.ne_nil {t : Text} (h : t.OpensLine) : t ≠ [] := by
  obtain ⟨c, rest, rfl, _⟩ := h
  exact List.cons_ne_nil c rest

theorem OpensLine.allBlank {t : Text} (h : t.OpensLine) : Text.allBlank t = false := by
  obtain ⟨c, rest, rfl, hc, _⟩ := h
  rw [Text.allBlank, List.all_cons, hc, Bool.false_and]

theorem OpensLine.isRow {t : Text} (h : t.OpensLine) : Row.isRow t = false := by
  obtain ⟨c, rest, rfl, hc, hbar, _⟩ := h
  refine Bool.eq_false_iff.2 fun hrow => ?_
  obtain ⟨inner, hinner, _⟩ := Row.exists_inner_of_isRow hrow
  have hink := congrArg Text.ink hinner
  rw [Text.ink_trim, Text.ink_cons, Text.ink_cons, hc] at hink
  exact hbar (List.cons.inj hink).1

/-! ## Pieces around a newline -/

theorem pieces_of_read? {t rest : Text} {g : Tag} (h : Tag.read? t = some (g, rest)) :
    pieces t = .tag g :: pieces rest := by
  rcases t with _ | ⟨c, t⟩
  · cases h
  · have hc : c ≠ '\n' := by
      rintro rfl
      rw [read?_eq_none (by decide)] at h
      cases h
    rw [pieces, if_neg hc]
    split
    · next h' => rw [h] at h'; cases h'; rfl
    · next h' => rw [h] at h'; cases h'

theorem newline_notMem_tag (g : Tag) : '\n' ∉ g.text := by
  rcases g with (_ | _ | _) | (_ | _ | _) <;> decide

/-- No tag reaches over a newline. -/
theorem read?_append_newline_eq_none {t : Text} (h : Tag.read? t = none) (u : Text) :
    Tag.read? (t ++ '\n' :: u) = none := by
  cases hread : Tag.read? (t ++ '\n' :: u) with
  | none => rfl
  | some found =>
    obtain ⟨g, rest⟩ := found
    rcases List.append_eq_append_iff.1 (Tag.eq_append_of_read? hread) with
      ⟨x, hg, hx⟩ | ⟨x, rfl, _⟩
    · rcases x with _ | ⟨c, x⟩
      · rw [List.append_nil] at hg
        have ht := g.read?_append []
        rw [List.append_nil, hg, h] at ht
        cases ht
      · obtain rfl : '\n' = c := (List.cons.inj hx).1
        exact absurd (hg ▸ by simp) (newline_notMem_tag g)
    · rw [g.read?_append] at h
      cases h

/-- **A newline cuts a text in two.** -/
theorem pieces_append_newline (t u : Text) :
    pieces (t ++ '\n' :: u) = pieces t ++ .newline :: pieces u := by
  fun_induction pieces t with
  | case1 => rw [List.nil_append, pieces_newline, List.nil_append]
  | case2 t ih => rw [List.cons_append, pieces_newline, ih, List.cons_append]
  | case3 c t _ g rest hread _ ih =>
    have ht : c :: t ++ '\n' :: u = g.text ++ (rest ++ '\n' :: u) := by
      rw [Tag.eq_append_of_read? hread, List.append_assoc]
    have happend : Tag.read? (c :: t ++ '\n' :: u) = some (g, rest ++ '\n' :: u) :=
      ht ▸ g.read?_append _
    rw [pieces_of_read? happend, ih, List.cons_append]
  | case4 c t hc hread ih =>
    have hnone := read?_append_newline_eq_none hread u
    rw [List.cons_append] at hnone ⊢
    rw [Formatter.pieces_cons_append hc (by simp) hnone, ih, List.cons_append]

/-- A line without tildes is one run. -/
theorem pieces_line {c : Char} {line : Text} (hline : '\n' ∉ c :: line) (htilde : '~' ∉ c :: line) :
    pieces (c :: line) = [.text (c :: line)] := by
  have hrun : ∀ d ∈ line, Piece.inRun d = true := by
    intro d hd
    have hd' := List.mem_cons_of_mem c hd
    simp only [Piece.inRun, Bool.and_eq_true, bne_iff_ne]
    exact ⟨fun h => hline (h ▸ hd'), fun h => htilde (h ▸ hd')⟩
  have hnone := (untagged_of_notMem htilde).read?_eq_none
  rw [pieces_cons_of_read?_eq_none (List.ne_of_not_mem_cons hline).symm hnone,
    List.takeWhile_eq_self_iff.2 hrun, List.dropWhile_eq_nil_iff.2 hrun, pieces]

end Text

namespace Formatter

variable {s : Formatter}

/-! ## The start of a line -/

/-- **The start of a line**, in whatever frame. -/
structure FreshLine (s : Formatter) : Prop where
  mode : s.mode = s.enclosing
  line : s.line = []
  lineHasTag : s.lineHasTag = false
  lineHasText : s.lineHasText = false

theorem FreshLine.init : FreshLine {} := ⟨rfl, rfl, rfl, rfl⟩

theorem enclosing_ne_heading (s : Formatter) (level : Nat) : s.enclosing ≠ .heading level := by
  rw [enclosing]
  split <;> simp

theorem line_endLine (s : Formatter) : s.endLine.2.line = [] := by
  rw [endLine]
  split
  · split <;> rfl
  · rw [takeLine]
    split <;> rfl

theorem mode_endLine (s : Formatter) : s.endLine.2.mode = s.mode := by
  rw [endLine]
  split
  · split <;> rfl
  · rw [takeLine]
    split <;> rfl

/-- **A newline starts a line.** -/
theorem Coherent.freshLine_takeNewline (h : s.Coherent) : s.takeNewline.2.FreshLine := by
  have hframes := s.frames_takeNewline
  rw [Formatter.takeNewline] at hframes ⊢
  split at hframes
  · exact ⟨rfl, rfl, rfl, rfl⟩
  · next hmode =>
    have henclosing : s.mode = s.enclosing := by
      rcases h.mode with ⟨level, hlevel, _⟩ | henclosing
      · exact absurd hlevel (hmode level)
      · exact henclosing
    refine ⟨?_, s.line_endLine, rfl, rfl⟩
    rw [enclosing, hframes]
    exact s.mode_endLine.trans henclosing

theorem Coherent.after (h : s.Coherent) (ps : List Piece) : (s.after ps).Coherent := by
  induction ps generalizing s with
  | nil => exact h
  | cons p ps ih => exact ih (h.step p)

/-- A run goes on from where its first pieces have led. -/
theorem exists_run_append (s : Formatter) (ps : List Piece) :
    ∃ blocks, ∀ qs, s.run (ps ++ qs) = blocks ++ (s.after ps).run qs := by
  induction ps generalizing s with
  | nil => exact ⟨[], fun qs => rfl⟩
  | cons p ps ih =>
    obtain ⟨blocks, hblocks⟩ := ih (s.step p).2
    refine ⟨(s.step p).1 ++ blocks, fun qs => ?_⟩
    rw [List.cons_append, run, hblocks, List.append_assoc]
    rfl

/-- A text that is empty or ends with a newline leads to the start of a line. -/
theorem freshLine_after_pieces {t : Text} (ht : t = [] ∨ t.getLast? = some '\n') :
    (({} : Formatter).after (Text.pieces t)).FreshLine := by
  rcases ht with rfl | hlast
  · rw [Text.pieces]
    exact .init
  · obtain ⟨before, rfl⟩ := List.getLast?_eq_some_iff.1 hlast
    rw [Text.pieces_append_newline, Text.pieces, Formatter.after, List.foldl_append]
    exact (Coherent.init.after (Text.pieces before)).freshLine_takeNewline

/-! ## A table that ends early -/

/-- The table has ended with a blank line. -/
def endTable (s : Formatter) : Formatter := { s with table := [], blankRun := 1 }

/-- Nothing but a table is open, and no blank line has followed it. -/
structure OnlyTable (s : Formatter) : Prop where
  paragraph : s.paragraph = []
  blankRun : s.blankRun = 0

theorem FreshLine.onlyTable_row (h : s.FreshLine) {row : Text} (hrow : Row.isRow row = true)
    (hmark : row.Unmarked) :
    (s.after [.text row, .newline]).FreshLine ∧ (s.after [.text row, .newline]).OnlyTable := by
  have hput : s.takeText row = { s with line := row, lineHasText := true } := by
    rw [takeText_eq_putText (.inr hmark), putText, h.line, Row.allBlank_of_isRow hrow]
    simp
  have hmode : ∀ level, s.mode ≠ .heading level := fun level =>
    h.mode ▸ s.enclosing_ne_heading level
  have hafter : s.after [.text row, .newline]
      = (takeNewline { s with line := row, lineHasText := true }).2 := by
    rw [← hput]
    rfl
  rw [hafter, takeNewline]
  split
  · next level hlevel => exact absurd hlevel (hmode level)
  · simp only [endLine, Row.allBlank_of_isRow hrow, takeLine, hrow]
    exact ⟨⟨h.mode, rfl, rfl, rfl⟩, rfl, rfl⟩

/-- **A blank line ends the table.** -/
theorem FreshLine.step_newline (h : s.FreshLine) (hs : s.OnlyTable) :
    s.step .newline = (s.tableBlock, s.endTable) := by
  obtain ⟨frames, mode, line, lineHasTag, lineHasText, paragraph, table, blankRun⟩ := s
  obtain ⟨hmode, rfl, rfl, rfl⟩ := h
  obtain ⟨rfl, rfl⟩ := hs
  rw [Formatter.step, takeNewline]
  split
  · next level hlevel => exact absurd (hmode.symm.trans hlevel) (enclosing_ne_heading _ level)
  · simp [endLine, Text.allBlank, closeBuffers, paragraphBlock, tableBlock, block, alignment,
      endTable]

/-- In a line of text: it is a heading, or starts like one that is no row. -/
def InText (s : Formatter) : Prop := (∃ level, s.mode = .heading level) ∨ s.line.OpensLine

/-- **A run of text is taken without a look** at the table and the count of blank lines. -/
theorem takeText_set (s : Formatter) (table : List Text) (n : Nat) (run : Text) :
    takeText { s with table := table, blankRun := n } run
      = { s.takeText run with table := table, blankRun := n } := by
  rw [takeText, takeText]
  dsimp only
  split
  · next level rest h =>
    split
    · next level' rest' h' =>
      cases h.symm.trans h'
      rfl
    · next h' => cases h.symm.trans h'
  · next h =>
    split
    · next level' rest' h' => cases h.symm.trans h'
    · rfl

theorem takeText_endTable (s : Formatter) (run : Text) :
    s.endTable.takeText run = (s.takeText run).endTable := s.takeText_set [] 1 run

theorem table_takeText (s : Formatter) (run : Text) : (s.takeText run).table = s.table := by
  simp only [takeText]
  split <;> rfl

theorem OnlyTable.takeText (h : s.OnlyTable) (run : Text) : (s.takeText run).OnlyTable := by
  simp only [Formatter.takeText]
  split
  · exact ⟨h.paragraph, h.blankRun⟩
  · exact ⟨h.paragraph, h.blankRun⟩

theorem InText.takeText (h : s.InText) (run : Text) : (s.takeText run).InText := by
  rcases h with ⟨level, hmode⟩ | hline
  · simp only [Formatter.takeText, hmode]
    exact .inl ⟨level, rfl⟩
  · rw [takeText_eq_putText (.inl hline.ne_nil)]
    exact .inr (hline.append run)

theorem tableBlock_takeText (s : Formatter) (run : Text) :
    (s.takeText run).tableBlock = s.tableBlock := by
  simp only [takeText]
  split <;> rfl

/-- A line that starts with text is a line of text. -/
theorem FreshLine.inText_takeText (h : s.FreshLine) {run : Text} (hrun : run.OpensLine) :
    (s.takeText run).InText := by
  simp only [takeText, h.line, List.nil_append]
  split
  · exact .inl ⟨_, rfl⟩
  · exact .inr hrun

/-- **The end of a line of text ends the table with it.** -/
theorem InText.takeNewline_endTable (h : s.InText) (hs : s.OnlyTable) :
    s.takeNewline = (s.tableBlock ++ s.endTable.takeNewline.1, s.endTable.takeNewline.2) := by
  obtain ⟨frames, mode, line, lineHasTag, lineHasText, paragraph, table, blankRun⟩ := s
  obtain ⟨rfl, rfl⟩ := hs
  rcases h with ⟨level, rfl⟩ | hline
  · simp [takeNewline, endTable, closeHeading, paragraphBlock, tableBlock, block, alignment,
      enclosing]
  · cases mode <;>
      simp [takeNewline, endTable, closeHeading, endLine, hline.allBlank, takeLine, hline.isRow,
        paragraphBlock, tableBlock, block, alignment, enclosing]

theorem InText.closeInline_endTable (h : s.InText) (hs : s.OnlyTable) :
    s.closeInline = (s.tableBlock ++ s.endTable.closeInline.1, s.endTable.closeInline.2) := by
  obtain ⟨frames, mode, line, lineHasTag, lineHasText, paragraph, table, blankRun⟩ := s
  obtain ⟨rfl, rfl⟩ := hs
  rcases h with ⟨level, rfl⟩ | hline
  · simp [closeInline, endTable, closeHeading, paragraphBlock, tableBlock, block, alignment,
      enclosing]
  · cases mode <;>
      simp [closeInline, endTable, closeHeading, hline.allBlank, takeLine, hline.isRow,
        closeBuffers, paragraphBlock, tableBlock, block, alignment, enclosing]

/-- At the start of a line, the end of the text ends the table. -/
theorem FreshLine.finish_eq (h : s.FreshLine) (hs : s.paragraph = []) :
    s.finish = s.tableBlock := by
  obtain ⟨frames, mode, line, lineHasTag, lineHasText, paragraph, table, blankRun⟩ := s
  obtain ⟨hmode, rfl, rfl, rfl⟩ := h
  obtain rfl := hs
  rw [finish, closeInline]
  split
  · next level hlevel => exact absurd (hmode.symm.trans hlevel) (enclosing_ne_heading _ level)
  · simp [Text.allBlank, closeBuffers, paragraphBlock, tableBlock, block, alignment]

/-- **A line of text ends the table as a blank line in front of it does.** -/
theorem InText.run_endTable (h : s.InText) (hs : s.OnlyTable) (ps : List Piece) :
    s.run ps = s.tableBlock ++ s.endTable.run ps := by
  induction ps generalizing s with
  | nil =>
    rw [run, run, finish, finish, h.closeInline_endTable hs]
  | cons p ps ih =>
    rw [run, run]
    rcases p with _ | g | run
    · rw [Formatter.step, Formatter.step, h.takeNewline_endTable hs, List.append_assoc]
    · rw [Formatter.step, Formatter.step]
      by_cases hmove : g.move s.frames = s.frames
      · rw [takeTag_of_move_eq hmove, takeTag_of_move_eq (s := s.endTable) hmove]
        exact ih (s := { s with lineHasTag := true }) h ⟨hs.paragraph, hs.blankRun⟩
      · rw [takeTag_of_move_ne hmove, takeTag_of_move_ne (s := s.endTable) hmove,
          h.closeInline_endTable hs, List.append_assoc]
        rfl
    · have ih := ih (h.takeText run) (hs.takeText run)
      rw [tableBlock_takeText] at ih
      rw [Formatter.step, Formatter.step, takeText_endTable]
      exact ih

/-- **Where a line of text comes next, or nothing, a blank line changes no block.** -/
theorem FreshLine.run_newline (h : s.FreshLine) (hs : s.OnlyTable) {t : Text}
    (ht : t = [] ∨ t.OpensLine) :
    s.run (.newline :: Text.pieces t) = s.run (Text.pieces t) := by
  rw [run, h.step_newline hs]
  rcases ht with rfl | ⟨c, rest, rfl, hc, hbar, htilde⟩
  · have hended : s.endTable.FreshLine := ⟨h.mode, h.line, h.lineHasTag, h.lineHasText⟩
    rw [Text.pieces, run, run, h.finish_eq hs.paragraph, hended.finish_eq hs.paragraph]
    exact List.append_nil _
  · have hline : c ≠ '\n' := by
      rintro rfl
      cases hc
    rw [Text.pieces_cons_of_read?_eq_none hline (Text.read?_eq_none htilde rest), run, run,
      Formatter.step, Formatter.step, takeText_endTable]
    have hopens : Text.OpensLine (c :: rest.takeWhile Piece.inRun) :=
      ⟨c, _, rfl, hc, hbar, htilde⟩
    have hrun := (h.inText_takeText hopens).run_endTable (hs.takeText _)
    rw [tableBlock_takeText] at hrun
    exact (hrun _).symm

end Formatter

/-! ## In a text -/

namespace Text

/-- What ends with a newline is cut off from what follows. -/
theorem pieces_append_of_getLast? {t : Text} (ht : t = [] ∨ t.getLast? = some '\n') (u : Text) :
    pieces (t ++ u) = pieces t ++ pieces u := by
  rcases ht with rfl | hlast
  · rw [List.nil_append, pieces, List.nil_append]
  · obtain ⟨before, rfl⟩ := List.getLast?_eq_some_iff.1 hlast
    rw [List.append_assoc, List.singleton_append, pieces_append_newline, pieces_append_newline,
      pieces, List.append_assoc, List.singleton_append]

theorem exists_unixLines_append_of_getLast? {t : Text} (ht : t = [] ∨ t.getLast? = some '\n') :
    ∃ t', (t' = [] ∨ t'.getLast? = some '\n') ∧
      ∀ u, unixLines (t ++ u) = t' ++ unixLines u := by
  rcases ht with rfl | hlast
  · exact ⟨[], .inl rfl, fun u => rfl⟩
  · obtain ⟨before, rfl⟩ := List.getLast?_eq_some_iff.1 hlast
    obtain ⟨before', _, happend⟩ := exists_unixLines_append before
    refine ⟨before' ++ ['\n'], .inr List.getLast?_concat, fun u => ?_⟩
    rw [List.append_assoc, List.singleton_append, happend, List.append_assoc,
      List.singleton_append]

theorem OpensLine.unixLines {t : Text} (h : t.OpensLine) : OpensLine (Text.unixLines t) := by
  obtain ⟨c, rest, rfl, hc, hne⟩ := h
  have hreturn : c ≠ '\r' := by
    rintro rfl
    cases hc
  exact ⟨c, Text.unixLines rest, unixLines_cons hreturn rest, hc, hne⟩

end Text

/-- A row that is a line of its own and holds no tag. -/
structure Row.OwnLine (row : Text) : Prop where
  isRow : Row.isRow row = true
  unmarked : row.Unmarked
  newline : '\n' ∉ row
  tilde : '~' ∉ row
  carriageReturn : '\r' ∉ row

theorem Row.OwnLine.pieces_append {row : Text} (h : Row.OwnLine row) (t : Text) :
    Text.pieces (row ++ '\n' :: t) = .text row :: .newline :: Text.pieces t := by
  rcases row with _ | ⟨c, row⟩
  · cases h.isRow
  · rw [Text.pieces_append_newline, Text.pieces_line h.newline h.tilde]
    rfl

/-- **A blank line between a row and a line of text changes no block**, and neither does one between
a row and the end. -/
theorem formatBlocks_blankLine {before row behind : Text}
    (hbefore : before = [] ∨ before.getLast? = some '\n') (hrow : Row.OwnLine row)
    (hbehind : behind = [] ∨ behind.OpensLine) :
    formatBlocks (before ++ (row ++ '\n' :: '\n' :: behind))
      = formatBlocks (before ++ (row ++ '\n' :: behind)) := by
  obtain ⟨before', hbefore', happend⟩ := Text.exists_unixLines_append_of_getLast? hbefore
  have hunix : ∀ t, Text.unixLines (before ++ (row ++ '\n' :: t))
      = before' ++ (row ++ '\n' :: Text.unixLines t) := fun t => by
    rw [happend, Text.unixLines_append_of_notMem hrow.carriageReturn,
      Text.unixLines_cons (by decide)]
  have hfresh := Formatter.freshLine_after_pieces hbefore'
  obtain ⟨hstart, honly⟩ := hfresh.onlyTable_row hrow.isRow hrow.unmarked
  obtain ⟨blocks, hblocks⟩ := ({} : Formatter).exists_run_append
    (Text.pieces before' ++ [.text row, .newline])
  have hrun : ∀ t, formatBlocks (before ++ (row ++ '\n' :: t))
      = blocks ++ ((({} : Formatter).after (Text.pieces before')).after
        [.text row, .newline]).run (Text.pieces (Text.unixLines t)) := fun t => by
    rw [formatBlocks, hunix, Text.pieces_append_of_getLast? hbefore', hrow.pieces_append]
    have hrun := hblocks (Text.pieces (Text.unixLines t))
    rw [Formatter.after, List.foldl_append, List.append_assoc] at hrun
    exact hrun
  have hbehind' : Text.unixLines behind = [] ∨ (Text.unixLines behind).OpensLine :=
    hbehind.imp (fun h => by rw [h]; rfl) fun h => h.unixLines
  rw [hrun, hrun, Text.unixLines_cons (by decide), Text.pieces_newline,
    hstart.run_newline honly hbehind']

end Conveyance
