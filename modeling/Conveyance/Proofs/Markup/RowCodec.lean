import Conveyance.Markup.Row
import Conveyance.Proofs.Text.Ink
import Mathlib.Data.List.Infix

/-!
# Proofs/Markup/RowCodec — a row that is written is read back

`Row.markup` writes cells between bars and `Row.splitCells` cuts a line at its unescaped bars.  The
line that is written **is a row** (`isRow_markup`) and gives back every cell, with line breaks as
spaces and without blanks at its ends (`splitCells_markup`).  A word without bars, backslashes and
blanks stands in the line exactly when it stands in a cell (`infix_markup_iff`), and the line is a
rule exactly when it is drawn with nothing but dashes, colons and blanks (`isSeparator_markup_iff`).
-/

namespace Conveyance.Row

/-- A cell in one line: line breaks become spaces. -/
def flat (cell : Text) : Text := cell.map fun c => if c = '\r' || c = '\n' then ' ' else c

/-- **A cell as a table shows it**: in one line, without blanks at its ends. -/
def shown (cell : Text) : Text := Text.trim (flat cell)

/-- What a row holds between its first and its last bar. -/
def body (cells : List Text) : Text :=
  ' ' :: (Text.join " | ".toList (cells.map escapeCell) ++ [' '])

theorem markup_eq (cells : List Text) : markup cells = '|' :: (body cells ++ ['|']) := by
  simp [markup, body]

theorem body_singleton (cell : Text) : body [cell] = ' ' :: (escapeCell cell ++ [' ']) := by
  simp [body]

theorem body_cons_cons (cell next : Text) (cells : List Text) :
    body (cell :: next :: cells)
      = ' ' :: (escapeCell cell ++ ' ' :: '|' :: body (next :: cells)) := by
  simp [body, Text.join_cons_cons]

/-! ## Cutting what was written -/

theorem cut_cons {c : Char} (hescape : c ≠ '\\') (hbar : c ≠ '|') (t : Text) :
    cut (c :: t) = consFirst c (cut t) := by
  rw [cut]
  all_goals simp [hescape, hbar]

theorem foldr_consFirst (w cell : Text) (cells : List Text) :
    w.foldr consFirst (cell :: cells) = (w ++ cell) :: cells := by
  induction w with
  | nil => rfl
  | cons c w ih => rw [List.foldr_cons, ih, consFirst, List.cons_append]

/-- **Cutting undoes escaping**, whatever follows. -/
theorem cut_escapeCell (t : Text) :
    ∀ cell : Text, cut (escapeCell cell ++ t) = (flat cell).foldr consFirst (cut t)
  | [] => rfl
  | c :: cell => by
      have ih := cut_escapeCell t cell
      have hcons : escapeCell (c :: cell) ++ t = escapeChar c ++ (escapeCell cell ++ t) := by
        rw [escapeCell, List.flatMap_cons, List.append_assoc]
        rfl
      rw [hcons, flat, List.map_cons, List.foldr_cons, ← flat, ← ih, escapeChar]
      split
      · next h => rw [h]; rfl
      · next hescape =>
        split
        · next h => rw [h]; rfl
        · next hbar =>
          simp only [Bool.or_eq_true, decide_eq_true_eq]
          split
          · exact cut_cons (by decide) (by decide) _
          · exact cut_cons hescape hbar _

theorem cut_bar (t : Text) : cut ('|' :: t) = [] :: cut t := by rw [cut]

/-- **The cells of a written row**, each still between its spaces. -/
theorem cut_body : ∀ {cells : List Text}, cells ≠ [] →
    cut (body cells) = cells.map fun cell => ' ' :: (flat cell ++ [' '])
  | [cell], _ => by
      have hend : cut [' '] = [[' ']] := by decide
      rw [body_singleton, cut_cons (by decide) (by decide), cut_escapeCell, hend, foldr_consFirst]
      rfl
  | cell :: next :: cells, _ => by
      have hend : cut (' ' :: '|' :: body (next :: cells))
          = [' '] :: cut (body (next :: cells)) := by
        rw [cut_cons (by decide) (by decide), cut_bar, consFirst]
      rw [body_cons_cons, cut_cons (by decide) (by decide), cut_escapeCell, hend, foldr_consFirst,
        cut_body (List.cons_ne_nil next cells)]
      rfl

/-- **A written row gives its cells back.** -/
theorem splitCells_markup {cells : List Text} (h : cells ≠ []) :
    splitCells (markup cells) = cells.map shown := by
  rw [splitCells, markup_eq, Text.trim_cons_concat (by decide) (by decide), List.drop_succ_cons,
    List.drop_zero, List.dropLast_concat, cut_body h, List.map_map]
  exact List.map_congr_left fun cell _ => Text.trim_spaces (flat cell)

/-! ## Recognizing what was written -/

theorem trim_markup (cells : List Text) : Text.trim (markup cells) = markup cells := by
  rw [markup_eq, Text.trim_cons_concat (by decide) (by decide)]

/-- What is written between bars ends in a space. -/
theorem exists_body_eq_concat (cells : List Text) : ∃ t, body cells = t ++ [' '] :=
  ⟨' ' :: Text.join " | ".toList (cells.map escapeCell), rfl⟩

/-- **A written row is a row**: the bar at its end has a space in front, never a backslash. -/
theorem isRow_markup (cells : List Text) : isRow (markup cells) = true := by
  obtain ⟨t, ht⟩ := exists_body_eq_concat cells
  have hend : Text.stripSuffix? ['\\', '|'] (markup cells) = none := by
    rw [markup_eq, ht, Text.stripSuffix?]
    simp [Text.stripPrefix?]
  have hlast : (markup cells).getLast? = some '|' := by
    rw [markup_eq, ← List.cons_append, List.getLast?_concat]
  simp only [isRow, trim_markup, hend, hlast]
  simp [markup_eq]

/-- A written cell stands in its row as a whole. -/
theorem escapeCell_infix_markup {cells : List Text} {cell : Text} (h : cell ∈ cells) :
    escapeCell cell <:+: markup cells := by
  have hjoin : escapeCell cell <:+: Text.join " | ".toList (cells.map escapeCell) :=
    Text.infix_join_of_mem List.infix_rfl (List.mem_map_of_mem h)
  exact hjoin.trans (List.infix_append _ _ _)

/-- What stands in a row stands in a written cell, or is a bar or a space between two of them. -/
theorem mem_markup {cells : List Text} {c : Char} (h : c ∈ markup cells) :
    c = '|' ∨ c = ' ' ∨ ∃ cell ∈ cells, c ∈ escapeCell cell := by
  rw [markup_eq, body, List.mem_cons, List.mem_append, List.mem_singleton, List.mem_cons,
    List.mem_append, List.mem_singleton] at h
  rcases h with h | (h | h | h) | h
  · exact .inl h
  · exact .inr (.inl h)
  · rcases Text.mem_join h with h | ⟨part, hpart, h⟩
    · have hsep : " | ".toList = [' ', '|', ' '] := rfl
      rw [hsep, List.mem_cons, List.mem_cons, List.mem_singleton] at h
      rcases h with h | h | h
      · exact .inr (.inl h)
      · exact .inl h
      · exact .inr (.inl h)
    · obtain ⟨cell, hcell, rfl⟩ := List.mem_map.1 hpart
      exact .inr (.inr ⟨cell, hcell, h⟩)
  · exact .inr (.inl h)
  · exact .inl h

/-! ## Words in a row -/

/-- A character that is written as itself and separates no cells. -/
def isPlainChar (c : Char) : Bool :=
  c != '\\' && c != '|' && c != ' ' && c != '\r' && c != '\n'

/-- **What a character is written as**: a plain one as itself, any other without a plain character.
-/
theorem escapeChar_cases (c : Char) :
    (isPlainChar c = true ∧ escapeChar c = [c]) ∨
      escapeChar c = ['\\', '\\'] ∨ escapeChar c = ['\\', '|'] ∨ escapeChar c = [' '] := by
  rw [escapeChar]
  split
  · exact .inr (.inl rfl)
  · next hescape =>
    split
    · exact .inr (.inr (.inl rfl))
    · next hbar =>
      split
      · exact .inr (.inr (.inr rfl))
      · next hline =>
        by_cases hspace : c = ' '
        · rw [hspace]
          exact .inr (.inr (.inr rfl))
        · refine .inl ⟨?_, rfl⟩
          simp only [Bool.or_eq_true, decide_eq_true_eq, not_or] at hline
          simp [isPlainChar, hescape, hbar, hspace, hline]

theorem escapeChar_of_plain {c : Char} (h : isPlainChar c = true) : escapeChar c = [c] := by
  simp only [isPlainChar, Bool.and_eq_true, bne_iff_ne] at h
  obtain ⟨⟨⟨⟨hescape, hbar⟩, _⟩, hreturn⟩, hnewline⟩ := h
  simp [escapeChar, hescape, hbar, hreturn, hnewline]

theorem escapeCell_of_plain {w : Text} (hw : ∀ c ∈ w, isPlainChar c = true) :
    escapeCell w = w := by
  induction w with
  | nil => rfl
  | cons c w ih =>
    have ih := ih fun d hd => hw d (List.mem_cons_of_mem c hd)
    rw [escapeCell] at ih ⊢
    rw [List.flatMap_cons, ih, escapeChar_of_plain (hw c List.mem_cons_self), List.singleton_append]

theorem notMem_escapeChar {c : Char} (hc : c = '\r' ∨ c = '\n') (d : Char) :
    c ∉ escapeChar d := by
  rcases escapeChar_cases d with ⟨hplain, h⟩ | h | h | h
  · have hne : isPlainChar c = false := by rcases hc with rfl | rfl <;> rfl
    rw [h, List.mem_singleton]
    rintro rfl
    rw [hplain] at hne
    cases hne
  all_goals
    rw [h]
    rcases hc with rfl | rfl <;> decide

/-- A line end is not written. -/
theorem notMem_markup {c : Char} (hc : c = '\r' ∨ c = '\n') (cells : List Text) :
    c ∉ markup cells := by
  intro hmem
  rcases mem_markup hmem with rfl | rfl | ⟨cell, _, h⟩
  · revert hc
    decide
  · revert hc
    decide
  · obtain ⟨d, _, hd⟩ := List.mem_flatMap.1 h
    exact notMem_escapeChar hc d hd

section Words

variable {w : Text}

/-- A word of plain characters holds none that separates. -/
theorem notMem_of_plain (hw : ∀ c ∈ w, isPlainChar c = true) {c : Char}
    (hc : isPlainChar c = false) : c ∉ w := fun hmem => by
  rw [hw c hmem] at hc
  cases hc

/-- A plain word that stands in a text and the escaped cell behind it stands in the text and the
cell. -/
theorem infix_of_infix_escapeCell (hne : w ≠ []) (hw : ∀ c ∈ w, isPlainChar c = true)
    (before cell : Text) (h : w <:+: before ++ escapeCell cell) : w <:+: before ++ cell := by
  induction cell generalizing before with
  | nil => exact h
  | cons c cell ih =>
    -- With a separator in between, the word stands in front of it or behind it.
    have hsplit : ∀ sep : Text, escapeChar c = sep → sep ≠ [] → (∀ d ∈ sep, d ∉ w) →
        w <:+: before ++ c :: cell := by
      intro sep hc hsep hdisjoint
      rw [escapeCell, List.flatMap_cons, ← escapeCell, hc] at h
      rcases Text.infix_append_append hne hsep hdisjoint h with h | h
      · exact h.trans ⟨[], c :: cell, rfl⟩
      · exact (ih [] h).trans ⟨before ++ [c], [], by simp⟩
    have hescape : '\\' ∉ w := notMem_of_plain hw rfl
    have hbar : '|' ∉ w := notMem_of_plain hw rfl
    have hspace : ' ' ∉ w := notMem_of_plain hw rfl
    rcases escapeChar_cases c with ⟨_, hc⟩ | hc | hc | hc
    · rw [escapeCell, List.flatMap_cons, ← escapeCell, hc] at h
      have hcell := ih (before ++ [c]) (by simpa using h)
      simpa using hcell
    · exact hsplit _ hc (by simp) (by simpa using hescape)
    · exact hsplit _ hc (by simp) (by simpa using ⟨hescape, hbar⟩)
    · exact hsplit _ hc (by simp) (by simpa using hspace)

/-- A plain word that stands in a row stands between its first and its last bar. -/
theorem infix_join_of_infix_markup (hne : w ≠ []) (hw : ∀ c ∈ w, isPlainChar c = true)
    {cells : List Text} (h : w <:+: markup cells) :
    w <:+: Text.join " | ".toList (cells.map escapeCell) := by
  have hbar : '|' ∉ w := notMem_of_plain hw rfl
  have hspace : ' ' ∉ w := notMem_of_plain hw rfl
  have hstart : w <:+: [] ++ ("| ".toList
      ++ (Text.join " | ".toList (cells.map escapeCell) ++ (" |".toList ++ []))) := by
    simpa [markup] using h
  rcases Text.infix_append_append hne (by simp) (by simpa using ⟨hbar, hspace⟩) hstart with h | h
  · exact absurd (List.eq_nil_of_infix_nil h) hne
  · rcases Text.infix_append_append hne (by simp) (by simpa using ⟨hspace, hbar⟩) h with h | h
    · exact h
    · exact absurd (List.eq_nil_of_infix_nil h) hne

/-- **A plain word stands in a row exactly when it stands in a cell.** -/
theorem infix_markup_iff (hne : w ≠ []) (hw : ∀ c ∈ w, isPlainChar c = true)
    {cells : List Text} : w <:+: markup cells ↔ ∃ cell ∈ cells, w <:+: cell := by
  constructor
  · intro h
    have hbar : '|' ∉ w := notMem_of_plain hw rfl
    have hspace : ' ' ∉ w := notMem_of_plain hw rfl
    obtain ⟨part, hpart, h⟩ := Text.infix_join hne (by simp)
      (by simpa using ⟨hspace, hbar, hspace⟩) (infix_join_of_infix_markup hne hw h)
    obtain ⟨cell, hcell, rfl⟩ := List.mem_map.1 hpart
    exact ⟨cell, hcell, infix_of_infix_escapeCell hne hw [] cell h⟩
  · rintro ⟨cell, hcell, before, after, rfl⟩
    refine List.IsInfix.trans ?_ (escapeCell_infix_markup hcell)
    refine ⟨escapeCell before, escapeCell after, ?_⟩
    rw [escapeCell, escapeCell, escapeCell, List.flatMap_append, List.flatMap_append, ← escapeCell,
      ← escapeCell, ← escapeCell, escapeCell_of_plain hw]

end Words

/-! ## Rules -/

/-- A character of a cell that leaves the line of the cell a rule. -/
def drawsRule (c : Char) : Bool := c == '-' || c == ':' || c == ' ' || c == '\r' || c == '\n'

theorem all_isRuleChar_escapeChar (c : Char) : (escapeChar c).all isRuleChar = drawsRule c := by
  by_cases hescape : c = '\\'
  · rw [hescape]
    rfl
  · by_cases hbar : c = '|'
    · rw [hbar]
      rfl
    · rw [escapeChar, if_neg hescape, if_neg hbar]
      split
      · next hline =>
        rcases Bool.or_eq_true_iff.1 hline with h | h <;> rw [of_decide_eq_true h] <;> rfl
      · next hline =>
        rw [Bool.or_eq_true, decide_eq_true_eq, decide_eq_true_eq, not_or] at hline
        rw [List.all_cons, List.all_nil, isRuleChar, drawsRule, beq_eq_false_iff_ne.2 hbar,
          beq_eq_false_iff_ne.2 hline.1, beq_eq_false_iff_ne.2 hline.2]
        simp only [Bool.false_or, Bool.or_false, Bool.and_true]

theorem all_isRuleChar_escapeCell (cell : Text) :
    (escapeCell cell).all isRuleChar = cell.all drawsRule := by
  rw [escapeCell, List.all_flatMap]
  exact congrArg cell.all (funext all_isRuleChar_escapeChar)

/-- **A written line is a rule** exactly when every cell is drawn with dashes, colons and blanks and
some cell holds a dash. -/
theorem isSeparator_markup_iff (cells : List Text) :
    isSeparator (markup cells) = true ↔
      (∀ cell ∈ cells, ∀ c ∈ cell, drawsRule c = true) ∧ ∃ cell ∈ cells, '-' ∈ cell := by
  have hdash : (markup cells).contains '-' = true ↔ ∃ cell ∈ cells, '-' ∈ cell := by
    have hplain : ∀ c ∈ ['-'], isPlainChar c = true := List.forall_mem_singleton.2 rfl
    have hinfix : ['-'] <:+: markup cells ↔ ∃ cell ∈ cells, ['-'] <:+: cell :=
      infix_markup_iff (List.cons_ne_nil _ _) hplain
    simpa only [List.contains_iff_mem, List.singleton_infix_iff] using hinfix
  have hrule : (markup cells).all isRuleChar = true ↔
      ∀ cell ∈ cells, ∀ c ∈ cell, drawsRule c = true := by
    simp only [← List.all_eq_true (p := drawsRule), ← all_isRuleChar_escapeCell]
    constructor
    · intro h cell hcell
      exact List.all_eq_true.2 fun c hc =>
        List.all_eq_true.1 h c ((escapeCell_infix_markup hcell).subset hc)
    · intro h
      refine List.all_eq_true.2 fun c hc => ?_
      rcases mem_markup hc with rfl | rfl | ⟨cell, hcell, hc⟩
      · rfl
      · rfl
      · exact List.all_eq_true.1 (h cell hcell) c hc
  rw [isSeparator, trim_markup, Bool.and_eq_true, hdash, hrule, and_comm]

/-- **A row with a cell that no rule is drawn with is not a separator.** -/
theorem isSeparator_markup {cells : List Text} {cell : Text} {c : Char} (hcell : cell ∈ cells)
    (hc : c ∈ cell) (hline : c ≠ '\r' ∧ c ≠ '\n') (hrule : isRuleChar c = false) :
    isSeparator (markup cells) = false := by
  refine Bool.eq_false_iff.2 fun h => ?_
  have hdrawn := ((isSeparator_markup_iff cells).1 h).1 cell hcell c hc
  simp only [drawsRule, Bool.or_eq_true, beq_iff_eq] at hdrawn
  rcases hdrawn with (((rfl | rfl) | rfl) | hreturn) | hnewline
  · cases hrule
  · cases hrule
  · cases hrule
  · exact hline.1 hreturn
  · exact hline.2 hnewline

/-! ## Rows that were written by hand -/

/-- A text that starts and ends with two different bars stands between them. -/
theorem exists_eq_between_bars {t : Text} (hlength : 2 ≤ t.length) (hfirst : t.head? = some '|')
    (hlast : t.getLast? = some '|') : ∃ inner, t = '|' :: (inner ++ ['|']) := by
  obtain ⟨rest, rfl⟩ := List.head?_eq_some_iff.1 hfirst
  have hne : rest ≠ [] := by
    rintro rfl
    simp at hlength
  obtain ⟨inner, c, rfl⟩ := Text.exists_eq_concat hne
  rw [← List.cons_append, List.getLast?_concat] at hlast
  exact ⟨inner, by rw [Option.some.inj hlast]⟩

/-- **Between bars stands a row** unless a backslash stands in front of the last one. -/
theorem isRow_between_bars {line inner : Text} (h : Text.trim line = '|' :: (inner ++ ['|'])) :
    isRow line = true ↔ inner.getLast? ≠ some '\\' := by
  have hsuffix : (Text.stripSuffix? ['\\', '|'] (Text.trim line)).isNone = true ↔
      inner.getLast? ≠ some '\\' := by
    rw [Option.isNone_iff_eq_none, Option.eq_none_iff_forall_not_mem, h]
    constructor
    · intro hnone hinner
      obtain ⟨u, rfl⟩ := List.getLast?_eq_some_iff.1 hinner
      exact hnone ('|' :: u) (Text.stripSuffix?_eq_some.2 (by simp))
    · intro hinner u hu
      rcases u with _ | ⟨c, u⟩
      · cases (List.cons.inj (Text.stripSuffix?_eq_some.1 hu)).1
      · have hu : inner ++ ['|'] = u ++ ['\\'] ++ ['|'] := by
          simpa using (List.cons.inj (Text.stripSuffix?_eq_some.1 hu)).2
        rw [List.append_cancel_right hu] at hinner
        exact hinner List.getLast?_concat
  have hlast : (Text.trim line).getLast? = some '|' := by
    rw [h, ← List.cons_append, List.getLast?_concat]
  have hhead : (Text.trim line).head? = some '|' := by rw [h]; rfl
  have hlength : 2 ≤ (Text.trim line).length := by simp [h]
  simp only [isRow, hhead, hlast, hlength, hsuffix, Bool.and_eq_true, decide_true, beq_self_eq_true,
    true_and]

/-- A row is what stands between its bars; no backslash stands in front of the last one. -/
theorem exists_inner_of_isRow {line : Text} (h : isRow line = true) :
    ∃ inner, Text.trim line = '|' :: (inner ++ ['|']) ∧ inner.getLast? ≠ some '\\' := by
  have hbars := h
  simp only [isRow, Bool.and_eq_true, decide_eq_true_eq, beq_iff_eq] at hbars
  obtain ⟨⟨⟨hlength, hfirst⟩, hlast⟩, -⟩ := hbars
  obtain ⟨inner, hinner⟩ := exists_eq_between_bars hlength hfirst hlast
  exact ⟨inner, hinner, (isRow_between_bars hinner).1 h⟩

/-- A row is not blank. -/
theorem allBlank_of_isRow {line : Text} (h : isRow line = true) : Text.allBlank line = false := by
  obtain ⟨inner, hinner, _⟩ := exists_inner_of_isRow h
  refine Bool.eq_false_iff.2 fun hblank => ?_
  rw [← Text.ink_eq_nil, ← Text.ink_trim, hinner, Text.ink_cons] at hblank
  cases hblank

end Conveyance.Row
