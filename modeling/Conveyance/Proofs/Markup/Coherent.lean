import Conveyance.Proofs.Markup.Reading

/-!
# Proofs/Markup/Coherent — what holds of the formatter between two pieces

`Formatter.Coherent` is the invariant of the block formatter: **at most one of the paragraph and the
table is open**, each holds only lines of its own kind, and a line that is not a heading is in the
mode of the frame around it.  Every step keeps it (`Coherent.step`).
-/

namespace Conveyance

/-! ## Heading markers -/

theorem isBlank_of_indent {c : Char} (hc : (c == ' ' || c == '\t') = true) :
    Text.isBlank c = true := by
  rcases Bool.or_eq_true_iff.1 hc with hc | hc <;> rw [beq_iff_eq.1 hc] <;> rfl

/-- The number signs that a text starts with are all ink. -/
theorem ink_eq_replicate_append (t : Text) :
    Text.ink t = List.replicate (t.takeWhile (· == '#')).length '#'
      ++ Text.ink (t.dropWhile (· == '#')) := by
  have hmarks : t.takeWhile (· == '#') = List.replicate (t.takeWhile (· == '#')).length '#' :=
    List.eq_replicate_of_mem fun c hc =>
      beq_iff_eq.1 (List.all_eq_true.1 (List.all_takeWhile (p := (· == '#')) (l := t)) c hc)
  calc Text.ink t
      = Text.ink (t.takeWhile (· == '#') ++ t.dropWhile (· == '#')) := by
        rw [List.takeWhile_append_dropWhile]
    _ = Text.ink (List.replicate (t.takeWhile (· == '#')).length '#')
          ++ Text.ink (t.dropWhile (· == '#')) := by rw [Text.ink_append, ← hmarks]
    _ = _ := by
        rw [Text.ink, List.filter_replicate]
        rfl

/-- **What a heading marker is**: after spaces and tabs, one to three number signs; the rest of the
run is the heading's text up to blanks. -/
theorem of_headingMarker?_eq_some {run rest : Text} {level : Nat}
    (h : headingMarker? run = some (level, rest)) :
    (1 ≤ level ∧ level ≤ 3) ∧ Text.ink run = List.replicate level '#' ++ Text.ink rest := by
  simp only [headingMarker?] at h
  split at h
  · next hlevel =>
    obtain ⟨rfl, rfl⟩ := Prod.mk.inj (Option.some.inj h)
    simp only [Bool.and_eq_true, decide_eq_true_eq] at hlevel
    refine ⟨hlevel.1, ?_⟩
    rw [← Text.ink_dropWhile (fun _ hc => isBlank_of_indent hc) run, Text.ink_trimStart]
    exact ink_eq_replicate_append _
  · cases h

namespace Formatter

/-! ## The invariant -/

/-- **What holds of the formatter between two pieces.** -/
structure Coherent (s : Formatter) : Prop where
  /-- The paragraph and the table are not both open. -/
  oneOpen : s.paragraph = [] ∨ s.table = []
  /-- The lines of a paragraph hold text and are not rows. -/
  paragraph : ∀ line ∈ s.paragraph, Text.allBlank line = false ∧ Row.isRow line = false
  /-- The lines of a table are rows, and none of them is a separator. -/
  table : ∀ line ∈ s.table, Row.isRow line = true ∧ Row.isSeparator line = false
  /-- A line is a heading of one of three levels, or in the mode of the frame around it. -/
  mode : (∃ level, s.mode = .heading level ∧ 1 ≤ level ∧ level ≤ 3) ∨ s.mode = s.enclosing

theorem Coherent.init : Coherent {} where
  oneOpen := .inl rfl
  paragraph := by simp
  table := by simp
  mode := .inr rfl

/-- Nothing is open: the paragraph and the table have ended. -/
def Closed (s : Formatter) : Prop := s.paragraph = [] ∧ s.table = []

/-- With nothing open, only the mode matters. -/
theorem Coherent.of_closed {s : Formatter} (h : s.Closed) (hmode : s.mode = s.enclosing) :
    s.Coherent where
  oneOpen := .inl h.1
  paragraph := by simp [h.1]
  table := by simp [h.2]
  mode := .inr hmode

/-- The invariant does not look at the current line. -/
theorem Coherent.congr {s s' : Formatter} (h : s.Coherent) (hp : s'.paragraph = s.paragraph)
    (ht : s'.table = s.table) (hm : s'.mode = s.mode) (hf : s'.frames = s.frames) :
    s'.Coherent where
  oneOpen := by rw [hp, ht]; exact h.oneOpen
  paragraph := by rw [hp]; exact h.paragraph
  table := by rw [ht]; exact h.table
  mode := by
    have he : s'.enclosing = s.enclosing := by rw [enclosing, enclosing, hf]
    rw [hm, he]
    exact h.mode

/-! ## Steps keep it -/

theorem Coherent.takeLine {s : Formatter} (h : s.Coherent) {line : Text}
    (hline : Text.allBlank line = false) : (s.takeLine line).2.Coherent := by
  rw [Formatter.takeLine]
  split
  · next hrow =>
    refine ⟨.inl rfl, by simp, fun l hl => ?_, h.mode⟩
    split at hl
    · exact h.table l hl
    · next hsep =>
      rcases List.mem_append.1 hl with hl | hl
      · exact h.table l hl
      · rw [List.mem_singleton.1 hl]
        exact ⟨hrow, Bool.eq_false_iff.2 hsep⟩
  · next hrow =>
    refine ⟨.inr rfl, fun l hl => ?_, by simp, h.mode⟩
    rcases List.mem_append.1 hl with hl | hl
    · exact h.paragraph l hl
    · rw [List.mem_singleton.1 hl]
      exact ⟨hline, Bool.eq_false_iff.2 hrow⟩

theorem closed_closeHeading (s : Formatter) (level : Nat) : (s.closeHeading level).2.Closed :=
  ⟨rfl, rfl⟩

theorem closed_closeInline (s : Formatter) : s.closeInline.2.Closed := by
  rw [closeInline]
  split
  · exact closed_closeHeading s _
  · exact ⟨rfl, rfl⟩

/-- **An alignment boundary ends the line and everything that is open.** -/
theorem line_closeInline (s : Formatter) : s.closeInline.2.line = [] := by
  rw [closeInline]
  split
  · rfl
  · simp only [closeBuffers]
    split
    · rfl
    · rw [Formatter.takeLine]
      split <;> rfl

theorem frames_takeLine (s : Formatter) (line : Text) : (s.takeLine line).2.frames = s.frames := by
  rw [Formatter.takeLine]
  split <;> rfl

theorem frames_closeInline (s : Formatter) : s.closeInline.2.frames = s.frames := by
  rw [closeInline]
  split
  · rfl
  · simp only [closeBuffers]
    split
    · rfl
    · exact frames_takeLine _ _

theorem Coherent.endLine {s : Formatter} (h : s.Coherent) : s.endLine.2.Coherent := by
  rw [Formatter.endLine]
  split
  · split
    · exact h.congr rfl rfl rfl rfl
    · exact ⟨.inl rfl, by simp [closeBuffers], by simp [closeBuffers], h.mode⟩
  · next hline =>
    exact (h.congr rfl rfl rfl rfl : Coherent { s with line := [] }).takeLine
      (Bool.eq_false_iff.2 hline)

theorem Coherent.takeNewline {s : Formatter} (h : s.Coherent) : s.takeNewline.2.Coherent := by
  rw [Formatter.takeNewline]
  split
  · next level _ => exact .of_closed (closed_closeHeading s level) rfl
  · exact h.endLine.congr rfl rfl rfl rfl

/-- A tag that moves no frame only marks its line. -/
theorem takeTag_of_move_eq {s : Formatter} {g : Tag} (h : g.move s.frames = s.frames) :
    s.takeTag g = ([], { s with lineHasTag := true }) := by
  obtain ⟨a, rfl, hne⟩ := Tag.move_eq_self.1 h
  rw [takeTag, if_neg hne]

/-- **A tag that moves the frames ends what is open** before it does. -/
theorem takeTag_of_move_ne {s : Formatter} {g : Tag} (h : g.move s.frames ≠ s.frames) :
    s.takeTag g = (s.closeInline.1,
      { s.closeInline.2 with
        frames := g.move s.frames
        mode := { s with frames := g.move s.frames }.enclosing
        lineHasTag := true }) := by
  cases g with
  | opening a =>
    rw [takeTag, frames_closeInline]
    rfl
  | closing a =>
    have hhead : s.frames.head? = some a :=
      Decidable.byContradiction fun hne => h (Tag.move_eq_self.2 ⟨a, rfl, hne⟩)
    simp only [takeTag, Tag.move, if_pos hhead, frames_closeInline, enclosing]

theorem Coherent.takeTag {s : Formatter} (h : s.Coherent) (g : Tag) : (s.takeTag g).2.Coherent := by
  by_cases hmove : g.move s.frames = s.frames
  · rw [takeTag_of_move_eq hmove]
    exact h.congr rfl rfl rfl rfl
  · rw [takeTag_of_move_ne hmove]
    exact .of_closed (closed_closeInline s) rfl

theorem Coherent.takeText {s : Formatter} (h : s.Coherent) (run : Text) :
    (s.takeText run).Coherent := by
  simp only [Formatter.takeText]
  split
  · next level rest hopens =>
    refine ⟨h.oneOpen, h.paragraph, h.table, .inl ⟨level, rfl, ?_⟩⟩
    split at hopens
    · cases hopens
    · split at hopens
      · exact (of_headingMarker?_eq_some hopens).1
      · cases hopens
  · exact h.congr rfl rfl rfl rfl

/-- **Every step keeps the invariant.** -/
theorem Coherent.step {s : Formatter} (h : s.Coherent) : ∀ p : Piece, (s.step p).2.Coherent
  | .newline => h.takeNewline
  | .tag g => h.takeTag g
  | .text run => h.takeText run

end Formatter

end Conveyance
