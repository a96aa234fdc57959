import Conveyance.Proofs.Markup.RowInk

/-!
# Proofs/Markup/RowReading — a row read character by character

A row is read from left to right: a backslash takes the next character into its cell, and a bar that
is not taken divides two cells.  `roles` says of each character what it does there; **cutting a row
into cells is this reading** (`cut_eq_cellsOf`).  A line of written cells is a row that gives them
back, and a rule exactly when it is drawn with nothing but dashes, colons and blanks
(`markup_codec`).  The test for rows looks only at the character before the last bar, so it takes a
bar behind an escaped backslash for an escaped one (`isRow_eq_endsDivided_iff`).
-/

namespace Conveyance.Row

/-! ## What was written -/

/-- **Cells survive the line they are written as.**  The line is a row, and reading it gives every
cell as a table shows it: in one line, trimmed, and with all its ink.  The line is a rule exactly
when all its cells are drawn as one and some cell holds a dash. -/
theorem markup_codec {cells : List Text} (h : cells ≠ []) :
    isRow (markup cells) = true ∧
      splitCells (markup cells) = cells.map shown ∧
      (∀ cell ∈ cells, Text.ink (shown cell) = Text.ink cell) ∧
      (isSeparator (markup cells) = true ↔
        (∀ cell ∈ cells, ∀ c ∈ cell, drawsRule c = true) ∧ ∃ cell ∈ cells, '-' ∈ cell) :=
  ⟨isRow_markup cells, splitCells_markup h, fun cell _ => ink_shown cell,
    isSeparator_markup_iff cells⟩

/-- Cells that end in backslashes and bars, and a cell that draws a rule beside some that do not. -/
theorem markup_codec_slashes :
    let cells : List Text := ["a\\".toList, "|\r\nb|".toList, "\\|\\".toList, ":-".toList]
    isRow (markup cells) = true ∧
      splitCells (markup cells)
        = ["a\\".toList, "|  b|".toList, "\\|\\".toList, ":-".toList] ∧
      isSeparator (markup cells) = false := by
  intro cells
  obtain ⟨hrow, hcells, -, hrule⟩ := markup_codec (List.cons_ne_nil _ _ : cells ≠ [])
  refine ⟨hrow, hcells.trans (by decide +kernel), Bool.eq_false_iff.2 fun h => ?_⟩
  exact absurd ((hrule.1 h).1 "a\\".toList List.mem_cons_self 'a' (by decide)) (by decide)

/-! ## What every character does -/

/-- What a character does in a row that is read from left to right. -/
inductive Role where
  /-- A backslash that takes the next character into its cell. -/
  | escape
  /-- A bar between two cells. -/
  | divider
  /-- A character of a cell. -/
  | content
  deriving DecidableEq, Repr

/-- **What every character of a text does** when it is read from left to right; a backslash with
nothing behind it is content. -/
def roles : Text → List Role
  | [] => []
  | ['\\'] => [.content]
  | '\\' :: _ :: t => .escape :: .content :: roles t
  | '|' :: t => .divider :: roles t
  | _ :: t => .content :: roles t

/-- The cells that characters make by their roles. -/
def cellsOf : List (Char × Role) → List Text
  | [] => [[]]
  | (_, .escape) :: marks => cellsOf marks
  | (_, .divider) :: marks => [] :: cellsOf marks
  | (c, .content) :: marks => consFirst c (cellsOf marks)

/-- **Cutting a row is reading it**: the cells are those that its characters make by their roles. -/
theorem cut_eq_cellsOf (t : Text) : cut t = cellsOf (t.zip (roles t)) := by
  fun_induction cut t with
  | case1 => rfl
  | case2 => rfl
  | case3 c t ih => rw [roles, ih]; rfl
  | case4 t ih => rw [roles, ih]; rfl
  | case5 c t hlast hescape hbar ih =>
    rw [roles, ih]
    · rfl
    all_goals assumption

/-! ## The last bar -/

/-- How many backslashes a text ends with. -/
def slashesAtEnd (t : Text) : Nat := (t.rtakeWhile (· == '\\')).length

/-- A line ends with a bar that divides, when everything behind its first character is read from
left to right. -/
def endsDivided (line : Text) : Bool :=
  (roles ((Text.trim line).drop 1)).getLast? == some .divider

/-- **A text that ends with no backslash is read alone**, whatever follows it. -/
theorem roles_append {s : Text} (hs : s.getLast? ≠ some '\\') (t : Text) :
    roles (s ++ t) = roles s ++ roles t := by
  fun_induction roles s with
  | case1 => rfl
  | case2 => exact absurd rfl hs
  | case3 c s ih =>
    have hrest := getLast?_ne_of_cons (getLast?_ne_of_cons hs)
    rw [List.cons_append, List.cons_append, roles, ih hrest]
    rfl
  | case4 s ih =>
    rw [List.cons_append, roles, ih (getLast?_ne_of_cons hs)]
    rfl
  | case5 c s hlast hescape hbar ih =>
    -- a backslash here would be the last character, or take the one behind it
    have hc : c ≠ '\\' := by
      rintro rfl
      rcases s with _ | ⟨d, s⟩
      · exact hlast rfl rfl
      · exact hescape d s rfl rfl
    have hc' : c ≠ '|' := hbar
    rw [List.cons_append, roles, ih (getLast?_ne_of_cons hs)]
    · rfl
    all_goals simp [hc, hc']

/-- **Backslashes take one another in pairs**, and the one left over takes the bar. -/
theorem getLast?_roles_slashes : ∀ n : Nat,
    (roles (List.replicate n '\\' ++ ['|'])).getLast?
      = some (if n % 2 = 0 then .divider else .content)
  | 0 => rfl
  | 1 => rfl
  | n + 2 => by
      have ih := getLast?_roles_slashes n
      rw [List.replicate_succ, List.replicate_succ, List.cons_append, List.cons_append, roles,
        List.getLast?_cons, List.getLast?_cons, ih, Nat.add_mod_right]
      rfl

/-- **A bar divides** exactly when an even number of backslashes stands in front of it. -/
theorem getLast?_roles_bar (t : Text) :
    (roles (t ++ ['|'])).getLast?
      = some (if slashesAtEnd t % 2 = 0 then .divider else .content) := by
  have hslashes : t.rtakeWhile (· == '\\') = List.replicate (slashesAtEnd t) '\\' :=
    List.eq_replicate_of_mem fun c hc =>
      beq_iff_eq.1 (List.mem_rtakeWhile_imp (p := (· == '\\')) hc)
  have hbefore : (t.rdropWhile (· == '\\')).getLast? ≠ some '\\' := by
    intro h
    have hne : t.rdropWhile (· == '\\') ≠ [] := by
      intro hnil
      rw [hnil] at h
      cases h
    rw [List.getLast?_eq_some_getLast hne, Option.some_inj] at h
    exact List.rdropWhile_last_not _ t hne (beq_iff_eq.2 h)
  have hsplit : t ++ ['|']
      = t.rdropWhile (· == '\\') ++ (List.replicate (slashesAtEnd t) '\\' ++ ['|']) := by
    rw [← hslashes, ← List.append_assoc, List.rdropWhile_append_rtakeWhile]
  rw [hsplit, roles_append hbefore, List.getLast?_append, getLast?_roles_slashes, Option.some_or]

/-- A text ends with no backslash exactly when it ends with none of them. -/
theorem slashesAtEnd_eq_zero {t : Text} : slashesAtEnd t = 0 ↔ t.getLast? ≠ some '\\' := by
  rw [slashesAtEnd, List.length_eq_zero_iff, List.rtakeWhile_eq_nil_iff]
  constructor
  · intro h hlast
    obtain ⟨u, rfl⟩ := List.getLast?_eq_some_iff.1 hlast
    exact h (by simp) (by simp)
  · intro h hne hlast
    rw [List.getLast?_eq_some_getLast hne, beq_iff_eq.1 hlast] at h
    exact h rfl

section LastBar

variable {line : Text}

/-- **When the last bar of a line divides.**  Let a line, trimmed, start and end with a bar, and let
what stands behind the first bar be read as it is cut into cells.  The line is a row when no
backslash stands in front of the last bar; the last bar divides when an even number of them does.
So both agree exactly when the backslashes are none or an odd number. -/
theorem isRow_eq_endsDivided_iff (hlength : 2 ≤ (Text.trim line).length)
    (hfirst : (Text.trim line).head? = some '|') (hlast : (Text.trim line).getLast? = some '|') :
    let behind := (Text.trim line).drop 1
    let slashes := slashesAtEnd behind.dropLast
    cut behind = cellsOf (behind.zip (roles behind)) ∧
      (isRow line = true ↔ slashes = 0) ∧
      (endsDivided line = true ↔ slashes % 2 = 0) ∧
      (isRow line = endsDivided line ↔ slashes = 0 ∨ slashes % 2 = 1) := by
  intro behind slashes
  obtain ⟨inner, hinner⟩ := exists_eq_between_bars hlength hfirst hlast
  have hslashes : slashes = slashesAtEnd inner := by
    simp [slashes, behind, hinner]
  have hrow : isRow line = true ↔ slashes = 0 := by
    rw [hslashes, slashesAtEnd_eq_zero, isRow_between_bars hinner]
  have hdivided : endsDivided line = true ↔ slashes % 2 = 0 := by
    rw [endsDivided, hinner, List.drop_succ_cons, List.drop_zero, getLast?_roles_bar, hslashes]
    split <;> simp [*]
  refine ⟨cut_eq_cellsOf behind, hrow, hdivided, ?_⟩
  rw [Bool.eq_iff_iff, hrow, hdivided]
  omega

/-- Three backslashes: two of them are a pair, and the third takes the bar. -/
theorem isRow_eq_endsDivided_three :
    isRow "| a \\\\\\|".toList = endsDivided "| a \\\\\\|".toList :=
  (isRow_eq_endsDivided_iff (by decide) (by decide) (by decide)).2.2.2.2 (.inr (by decide))

/-- An escaped backslash at the end of the last cell: the last bar divides, and yet the line is no
row. -/
theorem isRow_escapedSlash_ne :
    isRow "| a \\\\|".toList = false ∧ endsDivided "| a \\\\|".toList = true := by
  decide +kernel

end LastBar

end Conveyance.Row
