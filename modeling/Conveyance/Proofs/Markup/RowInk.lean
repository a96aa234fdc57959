import Conveyance.Proofs.Markup.RowCodec

/-!
# Proofs/Markup/RowInk — how much ink a row holds

A cell is written with the ink it has and the backslashes that keep it one cell, so the ink of a row
**depends on the ink of its cells alone** (`inkLength_map`).  A row that is read and written again
holds no more ink than before (`length_ink_markup_splitCells_le`): what reading drops are
backslashes that nothing needed.
-/

namespace Conveyance.Row

/-! ## The ink of a cell -/

theorem isBlank_of_lineEnd {c : Char} (h : (decide (c = '\r') || decide (c = '\n')) = true) :
    Text.isBlank c = true := by
  rcases Bool.or_eq_true_iff.1 h with h | h <;> rw [of_decide_eq_true h] <;> rfl

theorem ink_escapeChar_of_ne {c : Char} (hescape : c ≠ '\\') (hbar : c ≠ '|') :
    Text.ink (escapeChar c) = Text.ink [c] := by
  rw [escapeChar, if_neg hescape, if_neg hbar]
  split
  · next h =>
    have hc : Text.ink [c] = [] := by
      rw [Text.ink_cons, isBlank_of_lineEnd h]
      rfl
    rw [hc]
    rfl
  · rfl

/-- A character's escape is blank when the character is, and otherwise all ink. -/
theorem ink_escapeChar (c : Char) :
    Text.ink (escapeChar c) = (Text.ink [c]).flatMap escapeChar := by
  by_cases hescape : c = '\\'
  · rw [hescape]
    rfl
  · by_cases hbar : c = '|'
    · rw [hbar]
      rfl
    · rw [ink_escapeChar_of_ne hescape hbar, Text.ink_cons]
      split
      · rfl
      · next h =>
        have hline : (decide (c = '\r') || decide (c = '\n')) = false :=
          Bool.eq_false_iff.2 fun hline => h (isBlank_of_lineEnd hline)
        rw [Text.ink_nil, List.flatMap_singleton, escapeChar, if_neg hescape, if_neg hbar, hline]
        rfl

/-- The ink of a written cell is the ink of the cell, written. -/
theorem ink_escapeCell : ∀ cell : Text,
    Text.ink (escapeCell cell) = (Text.ink cell).flatMap escapeChar
  | [] => rfl
  | c :: cell => by
      have ih := ink_escapeCell cell
      rw [escapeCell] at ih ⊢
      rw [List.flatMap_cons, Text.ink_append, ih, ink_escapeChar, ← List.flatMap_append,
        ← Text.ink_append, List.singleton_append]

/-- Line breaks and blanks around a cell are no ink. -/
theorem ink_shown (cell : Text) : Text.ink (shown cell) = Text.ink cell := by
  rw [shown, Text.ink_trim, flat]
  induction cell with
  | nil => rfl
  | cons c cell ih =>
    rw [List.map_cons, Text.ink_cons, Text.ink_cons, ih]
    split
    · next h =>
      rw [isBlank_of_lineEnd h]
      rfl
    · rfl

/-! ## The ink of a row -/

/-- How much ink stands between the first and the last bar of a written row. -/
def inkLength (cells : List Text) : Nat :=
  (Text.join ['|'] (cells.map fun cell => Text.ink (escapeCell cell))).length

theorem length_ink_markup (cells : List Text) :
    (Text.ink (markup cells)).length = inkLength cells + 2 := by
  have hsep : Text.ink " | ".toList = ['|'] := by decide
  rw [markup, Text.ink_append, Text.ink_append, Text.ink_join, hsep, List.map_map,
    List.length_append, List.length_append, Nat.add_comm (List.length _)]
  rfl

/-- **What changes no ink of the cells changes no ink of the row.** -/
theorem inkLength_map {f : Text → Text} (hf : ∀ cell, Text.ink (f cell) = Text.ink cell)
    (cells : List Text) : inkLength (cells.map f) = inkLength cells := by
  have hmap : (cells.map f).map (fun cell => Text.ink (escapeCell cell))
      = cells.map fun cell => Text.ink (escapeCell cell) := by
    rw [List.map_map]
    refine List.map_congr_left fun cell _ => ?_
    rw [Function.comp, ink_escapeCell, ink_escapeCell, hf]
  rw [inkLength, hmap, inkLength]

theorem inkLength_cons_cons (cell next : Text) (cells : List Text) :
    inkLength (cell :: next :: cells)
      = (Text.ink (escapeCell cell)).length + 1 + inkLength (next :: cells) := by
  rw [inkLength, List.map_cons, List.map_cons, Text.join_cons_cons, List.length_append,
    List.length_append]
  rfl

theorem inkLength_nil_cons {cells : List Text} (h : cells ≠ []) :
    inkLength ([] :: cells) = 1 + inkLength cells := by
  obtain ⟨next, cells, rfl⟩ := List.exists_cons_of_ne_nil h
  rw [inkLength_cons_cons]
  rfl

theorem inkLength_consFirst (c : Char) {cells : List Text} (h : cells ≠ []) :
    inkLength (consFirst c cells) = (Text.ink (escapeChar c)).length + inkLength cells := by
  have hcons : ∀ cell : Text, Text.ink (escapeCell (c :: cell))
      = Text.ink (escapeChar c) ++ Text.ink (escapeCell cell) := fun cell => by
    rw [escapeCell, List.flatMap_cons, Text.ink_append]
    rfl
  obtain ⟨cell, cells, rfl⟩ := List.exists_cons_of_ne_nil h
  cases cells with
  | nil => simp [inkLength, consFirst, hcons]
  | cons next cells =>
    rw [consFirst, inkLength_cons_cons, inkLength_cons_cons, hcons, List.length_append]
    omega

theorem cut_ne_nil (t : Text) : cut t ≠ [] := by
  have hcons : ∀ c cells, consFirst c cells ≠ [] := fun c cells => by
    cases cells <;> simp [consFirst]
  fun_cases cut t <;> simp [hcons]

/-- A character is written with no more ink than it had after a backslash. -/
theorem length_ink_escapeChar_le (c : Char) :
    (Text.ink (escapeChar c)).length ≤ (Text.ink ['\\', c]).length := by
  by_cases hescape : c = '\\'
  · rw [hescape]
    decide
  · by_cases hbar : c = '|'
    · rw [hbar]
      decide
    · have hpair : Text.ink ['\\', c] = '\\' :: Text.ink [c] := by
        rw [Text.ink_cons]
        rfl
      rw [ink_escapeChar_of_ne hescape hbar, hpair]
      exact Nat.le_succ _

theorem getLast?_ne_of_cons {c : Char} {t : Text} (h : (c :: t).getLast? ≠ some '\\') :
    t.getLast? ≠ some '\\' := fun ht => by
  rw [List.getLast?_cons, ht] at h
  exact h rfl

/-- **Cutting at the bars and writing the cells again adds no ink**, unless a backslash is left over
at the end. -/
theorem inkLength_cut_le (t : Text) (h : t.getLast? ≠ some '\\') :
    inkLength (cut t) ≤ (Text.ink t).length := by
  fun_induction cut t with
  | case1 => exact Nat.le_refl 0
  | case2 => exact absurd rfl h
  | case3 c t ih =>
    -- the backslash goes, and the character behind it may need it again
    have ih := ih (getLast?_ne_of_cons (getLast?_ne_of_cons h))
    have hc := length_ink_escapeChar_le c
    have ht : Text.ink ('\\' :: c :: t) = Text.ink ['\\', c] ++ Text.ink t := by
      rw [← Text.ink_append]
      rfl
    rw [inkLength_consFirst c (cut_ne_nil t), ht, List.length_append]
    omega
  | case4 t ih =>
    have ih := ih (getLast?_ne_of_cons h)
    have hbar : (Text.ink ['|']).length = 1 := by decide
    rw [inkLength_nil_cons (cut_ne_nil t), Text.ink_cons_eq_append _ t, List.length_append, hbar]
    omega
  | case5 c t hone hescape hbar ih =>
    have ih := ih (getLast?_ne_of_cons h)
    have hc : c ≠ '\\' := by
      rintro rfl
      cases t with
      | nil => exact hone rfl rfl
      | cons d t => exact hescape d t rfl rfl
    rw [inkLength_consFirst c (cut_ne_nil t), ink_escapeChar_of_ne hc hbar,
      Text.ink_cons_eq_append c t, List.length_append]
    omega

/-- **A row holds at least the ink of its cells written again.** -/
theorem length_ink_markup_splitCells_le {line : Text} (h : isRow line = true) :
    (Text.ink (markup (splitCells line))).length ≤ (Text.ink line).length := by
  obtain ⟨inner, hinner, hlast⟩ := exists_inner_of_isRow h
  have hline : (Text.ink line).length = (Text.ink inner).length + 2 := by
    have hbar : Text.ink ['|'] = ['|'] := by decide
    rw [← Text.ink_trim, hinner, ← List.singleton_append, Text.ink_append, Text.ink_append, hbar,
      List.length_append, List.length_append, Nat.add_comm]
    rfl
  have hcells : splitCells line = (cut inner).map Text.trim := by
    rw [splitCells, hinner, List.drop_succ_cons, List.drop_zero, List.dropLast_concat]
  rw [length_ink_markup, hcells, inkLength_map Text.ink_trim, hline]
  exact Nat.add_le_add_right (inkLength_cut_le inner hlast) 2

end Conveyance.Row
