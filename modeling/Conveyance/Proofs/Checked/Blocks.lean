import Conveyance.Proofs.Checked.Scan
import Conveyance.Proofs.Markup.BlankLine

/-!
# Proofs/Checked/Blocks — blocks read from the bytes of a text

The formatter finds a heading's marker by counting bytes and cuts a row's cells out between its
first byte and its last.  The first is safe because number signs are one byte each, the second
because **only lines that are rows are ever put into a table**: that is the formatter's invariant.
With every cut looked at, the blocks are those of `formatBlocks` (`formatBlocksBytes_eq`).
-/

namespace Conveyance

/-! ## Lines -/

namespace Row

/-- The cells of a row, cut out between its first byte and its last. -/
def splitCellsBytes (line : Text) : Checked (List Text) :=
  let t := Text.trim line
  (fun inner => (cut inner).map Text.trim) <$> Text.between 1 (Text.utf8Length t - 1) t

/-- **A row has a bar at either end**, so that its cells can be cut out. -/
theorem splitCellsBytes_eq {line : Text} (h : isRow line = true) :
    splitCellsBytes line = .ok (splitCells line) := by
  obtain ⟨inner, hinner, -⟩ := exists_inner_of_isRow h
  have hline : Text.trim line = ['|'] ++ inner ++ ['|'] := hinner
  have hlen : Text.utf8Length (['|'] ++ inner ++ ['|']) - 1 = Text.utf8Length (['|'] ++ inner) := by
    rw [Text.utf8Length_append _ ['|']]
    rfl
  have hcut : Text.between 1 (Text.utf8Length (['|'] ++ inner)) (['|'] ++ inner ++ ['|'])
      = .ok inner := Text.between_append ['|'] inner ['|']
  have hinside : ((Text.trim line).drop 1).dropLast = inner := by
    rw [hinner]
    exact List.dropLast_concat
  simp only [splitCells, hinside, splitCellsBytes]
  rw [hline, hlen, hcut, Checked.map_ok]

end Row

/-- A heading marker, with its number signs counted by their bytes. -/
def headingMarkerBytes (run : Text) : Checked (Option (Nat × Text)) :=
  let isIndent := fun c => c == ' ' || c == '\t'
  let t := run.dropWhile isIndent
  let level := ((Text.utf8 t).takeWhile (· == '#'.toUInt8)).length
  if 1 ≤ level && level ≤ 3 then do
    let rest ← Text.since level t
    return if rest.head?.any isIndent then some (level, Text.trimStart rest) else none
  else .ok none

/-- Number signs are one byte each, and no other character starts with that byte. -/
theorem length_takeWhile_utf8 (t : Text) :
    ((Text.utf8 t).takeWhile (· == '#'.toUInt8)).length = (t.takeWhile (· == '#')).length := by
  induction t with
  | nil => rfl
  | cons c t ih =>
    obtain ⟨b, bs, hbytes, hfirst, -⟩ := Text.exists_first_byte c
    have hutf8 : Text.utf8 (c :: t) = b :: (bs ++ Text.utf8 t) := by
      rw [Text.utf8, List.flatMap_cons, hbytes]
      rfl
    by_cases hc : c = '#'
    · have hb := (hfirst '#' (by decide)).2 hc
      have hbs : bs = [] := by
        rw [hc] at hbytes
        exact (List.cons.inj hbytes).2.symm
      rw [hutf8, hbs, List.takeWhile_cons_of_pos (by simp [hb]),
        List.takeWhile_cons_of_pos (by simp [hc]), List.length_cons, List.length_cons]
      exact congrArg (· + 1) ih
    · have hb := mt (hfirst '#' (by decide)).1 hc
      rw [hutf8, List.takeWhile_cons_of_neg (by simp [hb]),
        List.takeWhile_cons_of_neg (by simp [hc])]
      rfl

theorem headingMarkerBytes_eq (run : Text) :
    headingMarkerBytes run = .ok (headingMarker? run) := by
  simp only [headingMarkerBytes, headingMarker?, length_takeWhile_utf8]
  generalize run.dropWhile (fun c => c == ' ' || c == '\t') = t
  have hsigns : Text.utf8Length (t.takeWhile (· == '#')) = (t.takeWhile (· == '#')).length := by
    refine Text.utf8Length_of_ascii fun c hc => ?_
    rw [beq_iff_eq.1 (List.all_eq_true.1 (List.all_takeWhile (p := (· == '#')) (l := t)) c hc)]
    decide
  have hrest : Text.since (t.takeWhile (· == '#')).length t = .ok (t.dropWhile (· == '#')) := by
    have hcut := Text.since_append (t.takeWhile (· == '#')) (t.dropWhile (· == '#'))
    rwa [List.takeWhile_append_dropWhile, hsigns] at hcut
  rw [hrest, Checked.ok_bind]
  generalize (t.takeWhile (· == '#')).length = level
  by_cases hlevel : (decide (1 ≤ level) && decide (level ≤ 3)) = true
  · rw [if_pos hlevel, hlevel, Bool.true_and]
    rfl
  · rw [if_neg hlevel, Bool.eq_false_iff.2 hlevel, Bool.false_and]
    rfl

/-! ## Pieces -/

namespace Text

/-- The byte at which the first character of a class starts. -/
def findBy? (p : Char → Bool) : Text → Option Nat
  | [] => none
  | c :: t => if p c then some 0 else (findBy? p t).map (c.utf8Size + ·)

/-- The byte at which the run of plain text that starts with a character ends: that of the next
newline or tilde, or the end of the text. -/
def runEnd (c : Char) (t : Text) : Nat :=
  ((findBy? (!Piece.inRun ·) t).map (c.utf8Size + ·)).getD (utf8Length (c :: t))

/-- The piece that starts a text, with the byte at which it ends. -/
def pieceBytes (c : Char) (t : Text) : Checked (Piece × Nat) :=
  if c = '\n' then .ok (.newline, 1)
  else match Tag.readBytes (c :: t) with
    | some (tag, len) => .ok (.tag tag, len)
    | none => (fun run => (.text run, runEnd c t)) <$> upTo (runEnd c t) (c :: t)

theorem runEnd_eq (c : Char) (t : Text) :
    runEnd c t = utf8Length (c :: t.takeWhile Piece.inRun) := by
  have hfind : (findBy? (!Piece.inRun ·) t).getD (utf8Length t)
      = utf8Length (t.takeWhile Piece.inRun) := by
    induction t with
    | nil => rfl
    | cons d t ih =>
      by_cases hd : Piece.inRun d = true
      · rw [findBy?, if_neg (by simp [hd]), List.takeWhile_cons_of_pos hd,
          utf8Length_cons d (t.takeWhile _), ← ih]
        cases findBy? (!Piece.inRun ·) t <;> rfl
      · rw [findBy?, if_pos (by simp [hd]), List.takeWhile_cons_of_neg hd]
        rfl
  rw [utf8Length_cons, ← hfind, runEnd]
  cases findBy? (!Piece.inRun ·) t <;> rfl

/-- **The piece that starts a text** ends where the next one starts. -/
theorem exists_pieceBytes (c : Char) (t : Text) : ∃ piece rest,
    pieceBytes c t = .ok (piece, utf8Length piece.source) ∧ piece.source ≠ [] ∧
      c :: t = piece.source ++ rest ∧ pieces (c :: t) = piece :: pieces rest := by
  rw [pieceBytes]
  by_cases hc : c = '\n'
  · rw [if_pos hc, hc]
    exact ⟨.newline, t, rfl, List.cons_ne_nil _ _, rfl, pieces_newline t⟩
  · rw [if_neg hc, Tag.readBytes_eq]
    rcases hread : Tag.read? (c :: t) with _ | ⟨tag, rest⟩
    · have ht : c :: t = (c :: t.takeWhile Piece.inRun) ++ t.dropWhile Piece.inRun := by
        rw [List.cons_append, List.takeWhile_append_dropWhile]
      have hcut : upTo (runEnd c t) (c :: t) = .ok (c :: t.takeWhile Piece.inRun) := by
        have happend := upTo_append (c :: t.takeWhile Piece.inRun) (t.dropWhile Piece.inRun)
        rwa [← ht, ← runEnd_eq] at happend
      refine ⟨.text (c :: t.takeWhile Piece.inRun), t.dropWhile Piece.inRun, ?_,
        List.cons_ne_nil _ _, ht, pieces_cons_of_read?_eq_none hc hread⟩
      rw [Option.map_none, hcut, Checked.map_ok, runEnd_eq]
      rfl
    · have ht := Tag.eq_append_of_read? hread
      refine ⟨.tag tag, rest, ?_, tag.text_ne_nil, ht, pieces_of_read? hread⟩
      have hlen : utf8Length (c :: t) - utf8Length rest = utf8Length tag.text := by
        rw [ht, utf8Length_append, Nat.add_sub_cancel]
      rw [Option.map_some]
      dsimp only
      rw [hlen]
      rfl

theorem pos_of_pieceBytes {c : Char} {t : Text} {piece : Piece} {len : Nat}
    (h : pieceBytes c t = .ok (piece, len)) : 0 < len := by
  obtain ⟨piece', rest, hpiece, hne, -⟩ := exists_pieceBytes c t
  rw [hpiece] at h
  cases h
  exact Nat.pos_of_ne_zero (mt utf8Length_eq_zero.1 hne)

/-- **The pieces of a text**, cut off one after another by their bytes. -/
def piecesBytes : Text → Checked (List Piece)
  | [] => .ok []
  | c :: t =>
    match hpiece : pieceBytes c t with
    | .error fault => .error fault
    | .ok (piece, len) =>
      match hrest : since len (c :: t) with
      | .error fault => .error fault
      | .ok rest =>
        have := length_since_lt (pos_of_pieceBytes hpiece) hrest
        (piece :: ·) <$> piecesBytes rest
termination_by t => t.length
decreasing_by assumption

theorem piecesBytes_eq (t : Text) : piecesBytes t = .ok (pieces t) := by
  fun_induction piecesBytes t with
  | case1 => rw [pieces]
  | case2 c t fault hpiece =>
    obtain ⟨piece, rest, hfirst, -⟩ := exists_pieceBytes c t
    rw [hpiece] at hfirst
    cases hfirst
  | case3 c t piece len hpiece fault hrest =>
    obtain ⟨piece', rest, hfirst, -, ht, -⟩ := exists_pieceBytes c t
    rw [hpiece] at hfirst
    cases hfirst
    rw [ht, since_append] at hrest
    cases hrest
  | case4 c t piece len hpiece rest hrest hlt ih =>
    obtain ⟨piece', rest', hfirst, -, ht, hpieces⟩ := exists_pieceBytes c t
    rw [hpiece] at hfirst
    cases hfirst
    rw [ht, since_append] at hrest
    cases hrest
    rw [ih, hpieces, Checked.map_ok]

end Text

/-! ## The formatter -/

namespace Formatter

/-- The open table, its cells cut out of its lines. -/
def tableBlockBytes (s : Formatter) : Checked (List Block) :=
  match s.table with
  | [] => .ok []
  | header :: rows => do
    let headerCells ← Row.splitCellsBytes header
    let rowCells ← rows.mapM Row.splitCellsBytes
    return [s.block (.table headerCells rowCells) (Text.join ['\n'] (header :: rows))]

/-- End the open paragraph and the open table. -/
def closeBuffersBytes (s : Formatter) : Checked (List Block × Formatter) := do
  return (s.paragraphBlock ++ (← s.tableBlockBytes), { s with paragraph := [], table := [] })

/-- Take a line that is not blank. -/
def takeLineBytes (s : Formatter) (line : Text) : Checked (List Block × Formatter) :=
  if Row.isRow line then .ok (s.takeLine line)
  else do
    return (← s.tableBlockBytes,
      { s with table := [], paragraph := s.paragraph ++ [line], blankRun := 0 })

/-- End the heading that the current line is. -/
def closeHeadingBytes (s : Formatter) (level : Nat) : Checked (List Block × Formatter) := do
  return (s.paragraphBlock ++ (← s.tableBlockBytes)
      ++ [s.block (.heading level) (Text.trim s.line)],
    { s with paragraph := [], table := [], line := [], mode := s.enclosing, blankRun := 0 })

/-- End everything that is open where an alignment starts or ends. -/
def closeInlineBytes (s : Formatter) : Checked (List Block × Formatter) :=
  match s.mode with
  | .heading level => s.closeHeadingBytes level
  | _ =>
    let taken := if Text.allBlank s.line then .ok ([], { s with line := [] })
      else takeLineBytes { s with line := [] } s.line
    taken >>= fun taken =>
      (fun closed => (taken.1 ++ closed.1, closed.2)) <$> taken.2.closeBuffersBytes

/-- The heading that a run of plain text opens. -/
def opensBytes (s : Formatter) (run : Text) : Checked (Option (Nat × Text)) :=
  match s.mode with
  | .heading _ => .ok none
  | _ => if !s.lineHasText && s.line.isEmpty then headingMarkerBytes run else .ok none

/-- A run of plain text. -/
def takeTextBytes (s : Formatter) (run : Text) : Checked Formatter :=
  let seen := { s with lineHasText := s.lineHasText || !Text.allBlank run }
  (fun opens => match opens with
    | some (level, rest) => { seen with mode := .heading level, line := rest }
    | none => { seen with line := s.line ++ run }) <$> s.opensBytes run

/-- The end of a line that is not a heading. -/
def endLineBytes (s : Formatter) : Checked (List Block × Formatter) :=
  if Text.allBlank s.line then
    if s.lineHasTag then .ok ([], { s with line := [] })
    else
      (fun closed =>
        (closed.1 ++ if 0 < s.blankRun then [s.block .lineBreak []] else [], closed.2)) <$>
      closeBuffersBytes { s with line := [], blankRun := s.blankRun + 1 }
  else takeLineBytes { s with line := [] } s.line

/-- The end of a line. -/
def takeNewlineBytes (s : Formatter) : Checked (List Block × Formatter) :=
  let ended := match s.mode with
    | .heading level => s.closeHeadingBytes level
    | _ => s.endLineBytes
  (fun ended => (ended.1, { ended.2 with lineHasTag := false, lineHasText := false })) <$> ended

/-- An alignment tag. -/
def takeTagBytes (s : Formatter) : Tag → Checked (List Block × Formatter)
  | .opening a => do
    let closed ← s.closeInlineBytes
    return (closed.1,
      { closed.2 with frames := a :: closed.2.frames, mode := .aligned a, lineHasTag := true })
  | .closing a =>
    if s.frames.head? = some a then do
      let closed ← s.closeInlineBytes
      let popped := { closed.2 with frames := closed.2.frames.tail }
      return (closed.1, { popped with mode := popped.enclosing, lineHasTag := true })
    else .ok ([], { s with lineHasTag := true })

/-- One piece. -/
def stepBytes (s : Formatter) : Piece → Checked (List Block × Formatter)
  | .newline => s.takeNewlineBytes
  | .tag tag => s.takeTagBytes tag
  | .text run => (([], ·)) <$> s.takeTextBytes run

/-- The blocks of the pieces that follow a state. -/
def runBytes (s : Formatter) : List Piece → Checked (List Block)
  | [] => (·.1) <$> s.closeInlineBytes
  | piece :: rest => do
    let done ← s.stepBytes piece
    return done.1 ++ (← runBytes done.2 rest)

variable {s : Formatter}

/-- **The lines of a table are rows**, so its cells can be cut out. -/
theorem Coherent.tableBlockBytes (h : s.Coherent) : s.tableBlockBytes = .ok s.tableBlock := by
  rw [Formatter.tableBlockBytes, Formatter.tableBlock]
  rcases htable : s.table with _ | ⟨header, rows⟩
  · rfl
  · have hrow : ∀ line ∈ header :: rows, Row.isRow line = true := fun line hline =>
      (h.table line (htable ▸ hline)).1
    have hrows : rows.mapM Row.splitCellsBytes = .ok (rows.map Row.splitCells) :=
      Checked.mapM_eq_ok fun line hline =>
        Row.splitCellsBytes_eq (hrow line (List.mem_cons_of_mem header hline))
    simp only [Row.splitCellsBytes_eq (hrow header List.mem_cons_self), hrows, Checked.ok_bind]
    rfl

theorem Coherent.closeBuffersBytes (h : s.Coherent) :
    s.closeBuffersBytes = .ok s.closeBuffers := by
  rw [Formatter.closeBuffersBytes, h.tableBlockBytes]
  rfl

theorem Coherent.takeLineBytes (h : s.Coherent) (line : Text) :
    s.takeLineBytes line = .ok (s.takeLine line) := by
  rw [Formatter.takeLineBytes]
  split
  · rfl
  · next hrow =>
    rw [h.tableBlockBytes, Formatter.takeLine, if_neg hrow]
    rfl

theorem Coherent.closeHeadingBytes (h : s.Coherent) (level : Nat) :
    s.closeHeadingBytes level = .ok (s.closeHeading level) := by
  rw [Formatter.closeHeadingBytes, h.tableBlockBytes]
  rfl

/-- The current line may be cut short. -/
theorem Coherent.cutLine (h : s.Coherent) : Coherent { s with line := [] } :=
  h.congr rfl rfl rfl rfl

theorem Coherent.closeInlineBytes (h : s.Coherent) : s.closeInlineBytes = .ok s.closeInline := by
  rw [Formatter.closeInlineBytes]
  split
  · next level hmode =>
    rw [h.closeHeadingBytes, closeInline, hmode]
  · next hmode =>
    have hinline : s.closeInline =
        let taken := if Text.allBlank s.line then ([], { s with line := [] })
          else Formatter.takeLine { s with line := [] } s.line
        (taken.1 ++ taken.2.closeBuffers.1, taken.2.closeBuffers.2) := by
      rw [closeInline]
      split
      · next level hheading => exact absurd hheading (hmode level)
      · rfl
    rw [hinline]
    by_cases hblank : Text.allBlank s.line = true
    · rw [if_pos hblank, if_pos hblank, Checked.ok_bind, h.cutLine.closeBuffersBytes]
      rfl
    · have hline := h.cutLine.takeLine (Bool.eq_false_iff.2 hblank)
      rw [if_neg hblank, if_neg hblank, h.cutLine.takeLineBytes, Checked.ok_bind,
        hline.closeBuffersBytes]
      rfl

theorem takeTextBytes_eq (s : Formatter) (run : Text) :
    s.takeTextBytes run = .ok (s.takeText run) := by
  have hopens : s.opensBytes run = .ok (match s.mode with
      | .heading _ => none
      | _ => if !s.lineHasText && s.line.isEmpty then headingMarker? run else none) := by
    rw [opensBytes, headingMarkerBytes_eq]
    cases s.mode with
    | heading level => rfl
    | normal => exact (apply_ite Except.ok _ _ _).symm
    | aligned a => exact (apply_ite Except.ok _ _ _).symm
  rw [takeTextBytes, hopens]
  rfl

theorem Coherent.endLineBytes (h : s.Coherent) : s.endLineBytes = .ok s.endLine := by
  have hcut : Coherent { s with line := [], blankRun := s.blankRun + 1 } :=
    h.congr rfl rfl rfl rfl
  rw [Formatter.endLineBytes, Formatter.endLine]
  split
  · split
    · rfl
    · rw [hcut.closeBuffersBytes]
      rfl
  · exact h.cutLine.takeLineBytes s.line

theorem Coherent.takeNewlineBytes (h : s.Coherent) : s.takeNewlineBytes = .ok s.takeNewline := by
  rw [Formatter.takeNewlineBytes, Formatter.takeNewline, h.endLineBytes]
  cases s.mode with
  | heading level =>
    dsimp only
    rw [h.closeHeadingBytes]
    rfl
  | normal => rfl
  | aligned a => rfl

theorem Coherent.takeTagBytes (h : s.Coherent) (g : Tag) :
    s.takeTagBytes g = .ok (s.takeTag g) := by
  cases g with
  | opening a =>
    rw [Formatter.takeTagBytes, h.closeInlineBytes]
    rfl
  | closing a =>
    rw [Formatter.takeTagBytes, Formatter.takeTag]
    split
    · rw [h.closeInlineBytes]
      rfl
    · rfl

/-- **No step fails** while the lines of a table are rows. -/
theorem Coherent.stepBytes (h : s.Coherent) : ∀ p : Piece, s.stepBytes p = .ok (s.step p)
  | .newline => h.takeNewlineBytes
  | .tag g => h.takeTagBytes g
  | .text run => by
    rw [Formatter.stepBytes, takeTextBytes_eq]
    rfl

/-- **No run fails**, because every step keeps the lines of a table rows. -/
theorem Coherent.runBytes (h : s.Coherent) (ps : List Piece) :
    s.runBytes ps = .ok (s.run ps) := by
  induction ps generalizing s with
  | nil =>
    rw [Formatter.runBytes, h.closeInlineBytes]
    rfl
  | cons p ps ih =>
    rw [Formatter.runBytes, h.stepBytes p, Checked.ok_bind, ih (h.step p)]
    rfl

end Formatter

/-- **The blocks of a text**, read from its bytes. -/
def formatBlocksBytes (t : Text) : Checked (List Block) := do
  let pieces ← Text.piecesBytes (Text.unixLines t)
  ({} : Formatter).runBytes pieces

/-- **Reading blocks from bytes never fails**, whatever the text is. -/
theorem formatBlocksBytes_eq (t : Text) : formatBlocksBytes t = .ok (formatBlocks t) := by
  rw [formatBlocksBytes, Text.piecesBytes_eq, Checked.ok_bind, Formatter.Coherent.init.runBytes]
  rfl

end Conveyance
