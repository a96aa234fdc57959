import Conveyance.Proofs.Catalog.Table
import Conveyance.Proofs.Scan
import Conveyance.Resolve

/-!
# Proofs/Resolve/TableTemplate — templates of tables, filled in

A table template is plain text and placeholders for tables, in any order.  It fills in to the
tables, written one below another: a `tableGap` stands between two of them, which is the plain text
with a newline **at either end where there is none**, and an empty line where there is no text at
all (`renderTemplate?_tableTemplate`).
-/

namespace Conveyance

open ListingEntry (braced)

/-- The placeholder of a collection's table, as it is written in a template. -/
def tablePlaceholder (c : Collection) : Text := braced (c.plural ++ "_TABLE".toList)

/-- Plain text, then placeholders for tables, each with the plain text behind it. -/
def tableTemplate (first : Text) (parts : List (Collection × Text)) : Text :=
  first ++ parts.flatMap fun part => tablePlaceholder part.1 ++ part.2

/-- **Plain text** holds no braces that open, no bars, no tildes and no number signs. -/
def Text.Plain (t : Text) : Prop := ∀ c ∈ t, c ≠ '{' ∧ c ≠ '|' ∧ c ≠ '~' ∧ c ≠ '#'

theorem tableTemplate_cons (first : Text) (c : Collection) (behind : Text)
    (parts : List (Collection × Text)) :
    tableTemplate first ((c, behind) :: parts)
      = first ++ tablePlaceholder c ++ tableTemplate behind parts := by
  simp [tableTemplate]

/-! ## Tokens -/

namespace Token

/-- The tokens of plain text: one, or none when there is no text. -/
def plain (t : Text) : List Token := if t = [] then [] else [.literal t]

theorem scan_plain {t : Text} (h : t.Plain) : scan t = plain t := by
  induction t with
  | nil => exact scan_nil
  | cons c t ih =>
    obtain ⟨hbrace, _, htilde, _⟩ := h c List.mem_cons_self
    have hnone : readMark? (c :: t) = none := by
      unfold readMark?
      split
      · next heq => exact absurd (List.cons.inj heq).1 hbrace
      · next heq => exact absurd (List.cons.inj heq).1 htilde
      · rfl
    rw [scan_cons_of_readMark?_eq_none hnone, ih fun d hd => h d (List.mem_cons_of_mem c hd)]
    rcases t with _ | ⟨d, t⟩
    · rfl
    · rfl

/-- **The tokens of a table template.** -/
theorem scan_tableTemplate {first : Text} {parts : List (Collection × Text)} (hfirst : first.Plain)
    (hparts : ∀ part ∈ parts, part.2.Plain) :
    scan (tableTemplate first parts)
      = plain first ++ parts.flatMap fun part => .placeholder (.table part.1) :: plain part.2 := by
  induction parts generalizing first with
  | nil =>
    rw [tableTemplate, List.flatMap_nil, List.append_nil, scan_plain hfirst, List.flatMap_nil,
      List.append_nil]
  | cons part parts ih =>
    obtain ⟨c, behind⟩ := part
    have hbehind : behind.Plain := hparts (c, behind) List.mem_cons_self
    rw [tableTemplate_cons, tablePlaceholder,
      scan_append_placeholder (.table c) first (tableTemplate behind parts), scan_plain hfirst,
      ih hbehind fun part hpart => hparts part (List.mem_cons_of_mem _ hpart), List.flatMap_cons]
    rfl

end Token

/-! ## Filling in -/

/-- Plain text behind a table starts a line. -/
def behindTable (t : Text) : Text := if t = [] ∨ t.head? = some '\n' then t else '\n' :: t

/-- **What stands between two tables** with plain text between their placeholders. -/
def tableGap (t : Text) : Text :=
  if t = [] then ['\n', '\n']
  else behindTable t ++ if t.getLast? = some '\n' then [] else ['\n']

/-- Plain text in front of a table ends a line. -/
def beforeTable (t : Text) : Text := if t = [] ∨ t.getLast? = some '\n' then t else t ++ ['\n']

/-- Tables with plain text behind them, filled in. -/
def filledTables (f : Format) (ctx : Context) : List (Collection × Text) → Text
  | [] => []
  | [(c, behind)] => (Table.ofCollection f ctx c).markup ++ behindTable behind
  | (c, behind) :: next :: parts =>
    (Table.ofCollection f ctx c).markup ++ tableGap behind ++ filledTables f ctx (next :: parts)

/-- A table template, filled in. -/
def filledTemplate (f : Format) (ctx : Context) (first : Text) :
    List (Collection × Text) → Text
  | [] => first
  | part :: parts => beforeTable first ++ filledTables f ctx (part :: parts)

namespace Filling

variable (f : Format) (ctx : Context)

/-- One token. -/
def take (s : Filling) (token : Token) : Option Filling :=
  (token.resolve? f ctx).map (s.add token.isTable)

/-- The newlines in front of a table that comes next. -/
def beforeNext (s : Filling) : Text := s.newlineBefore true ++ if s.afterTable then ['\n'] else []

/-- The text in front of the first table. -/
theorem foldlM_plain (t : Text) :
    (Token.plain t).foldlM (take f ctx) {} = some ⟨t, false⟩ := by
  rw [Token.plain]
  split
  · next h => rw [h]; rfl
  · rfl

theorem beforeNext_plain (t : Text) : t ++ beforeNext ⟨t, false⟩ = beforeTable t := by
  rw [beforeNext, newlineBefore, beforeTable]
  by_cases ht : t = []
  · simp [ht]
  · by_cases hlast : t.getLast? = some '\n'
    · simp [ht, hlast]
    · simp [ht, hlast]

theorem take_table (s : Filling) (c : Collection) :
    take f ctx s (.placeholder (.table c))
      = some ⟨s.text ++ s.beforeNext ++ (Table.ofCollection f ctx c).markup, true⟩ := by
  obtain ⟨inner, hmarkup⟩ := (Table.ofCollection f ctx c).exists_markup_eq
  have hafter : s.newlineAfter (Table.ofCollection f ctx c).markup
      = if s.afterTable then ['\n'] else [] := by
    rw [newlineAfter, hmarkup]
    cases s.afterTable <;> rfl
  simp only [take, Token.resolve?, Placeholder.resolve?, Token.isTable, Option.map_some, add,
    hafter, beforeNext, Bool.true_or, List.append_assoc]

/-- Text behind a table starts a line. -/
theorem take_literal (text : Text) {behind : Text} (hbehind : behind ≠ []) :
    take f ctx ⟨text, true⟩ (.literal behind) = some ⟨text ++ behindTable behind, false⟩ := by
  have hisEmpty : behind.isEmpty = false := List.isEmpty_eq_false_iff.2 hbehind
  simp only [take, Token.resolve?, Token.isTable, Option.map_some, add, newlineBefore,
    newlineAfter, hisEmpty, behindTable, hbehind, false_or]
  by_cases hhead : behind.head? = some '\n'
  · simp [hhead]
  · simp [hhead]

/-- **A table and the text behind it** are two tokens, or one when there is no text. -/
theorem foldlM_part (s : Filling) (c : Collection) (behind : Text) :
    (Token.placeholder (.table c) :: Token.plain behind).foldlM (take f ctx) s
      = some ⟨s.text ++ s.beforeNext ++ (Table.ofCollection f ctx c).markup ++ behindTable behind,
          behind.isEmpty⟩ := by
  rw [List.foldlM_cons, take_table]
  by_cases hbehind : behind = []
  · rw [hbehind, Token.plain, if_pos rfl, behindTable, if_pos (.inl rfl), List.append_nil]
    rfl
  · rw [Token.plain, if_neg hbehind, List.isEmpty_eq_false_iff.2 hbehind]
    exact take_literal f ctx _ hbehind

/-- What a part leaves in front of the next table. -/
theorem beforeNext_part (text : Text) (c : Collection) (behind : Text) :
    behindTable behind ++ beforeNext ⟨text ++ (Table.ofCollection f ctx c).markup
      ++ behindTable behind, behind.isEmpty⟩ = tableGap behind := by
  obtain ⟨inner, hmarkup⟩ := (Table.ofCollection f ctx c).exists_markup_eq
  rw [hmarkup]
  by_cases hbehind : behind = []
  · have hlast : (text ++ '|' :: (inner ++ ['|'])).getLast? = some '|' := by
      rw [← List.cons_append, ← List.append_assoc, List.getLast?_concat]
    rw [hbehind, tableGap, if_pos rfl, behindTable, if_pos (.inl rfl), beforeNext, newlineBefore,
      List.append_nil, hlast]
    simp
  · obtain ⟨before, d, rfl⟩ := Text.exists_eq_concat hbehind
    have hlast : (text ++ '|' :: (inner ++ ['|']) ++ behindTable (before ++ [d])).getLast?
        = some d := by
      obtain ⟨w, hw⟩ : ∃ w, behindTable (before ++ [d]) = w ++ [d] := by
        rw [behindTable]
        split
        · exact ⟨before, rfl⟩
        · exact ⟨'\n' :: before, rfl⟩
      rw [hw, ← List.append_assoc, List.getLast?_concat]
    rw [tableGap, if_neg hbehind, beforeNext, newlineBefore, hlast, List.getLast?_concat]
    by_cases hd : d = '\n'
    · simp [hd]
    · simp [hd]

/-- **The tables of a template, from any text on.** -/
theorem foldlM_parts (parts : List (Collection × Text)) (hne : parts ≠ []) (s : Filling) :
    ∃ b, (parts.flatMap fun part =>
        Token.placeholder (.table part.1) :: Token.plain part.2).foldlM (take f ctx) s
      = some ⟨s.text ++ s.beforeNext ++ filledTables f ctx parts, b⟩ := by
  induction parts generalizing s with
  | nil => exact absurd rfl hne
  | cons part parts ih =>
    obtain ⟨c, behind⟩ := part
    rw [List.flatMap_cons, List.foldlM_append, foldlM_part]
    rcases parts with _ | ⟨next, parts⟩
    · exact ⟨behind.isEmpty, by rw [filledTables, ← List.append_assoc]; rfl⟩
    · obtain ⟨b, hrest⟩ := ih (List.cons_ne_nil next parts) ⟨s.text ++ s.beforeNext
        ++ (Table.ofCollection f ctx c).markup ++ behindTable behind, behind.isEmpty⟩
      refine ⟨b, Eq.trans hrest ?_⟩
      rw [filledTables, List.append_assoc _ (behindTable behind), beforeNext_part]
      simp only [List.append_assoc]

end Filling

variable (f : Format) (ctx : Context) {first : Text} {parts : List (Collection × Text)}

theorem render?_tableTemplate (hfirst : first.Plain) (hparts : ∀ part ∈ parts, part.2.Plain) :
    render? f ctx (tableTemplate first parts) = some (filledTemplate f ctx first parts) := by
  rw [render?, Token.scan_tableTemplate hfirst hparts]
  change ((Token.plain first ++ _).foldlM (Filling.take f ctx) {}).map _ = _
  rw [List.foldlM_append, Filling.foldlM_plain]
  rcases parts with _ | ⟨part, parts⟩
  · rfl
  · obtain ⟨b, hrest⟩ := Filling.foldlM_parts f ctx (part :: parts) (List.cons_ne_nil part parts)
      ⟨first, false⟩
    rw [Option.bind_eq_bind, Option.bind_some, hrest, Option.map_some, Filling.beforeNext_plain,
      filledTemplate]

/-- **A table template is filled in.** -/
theorem renderTemplate?_tableTemplate (hfirst : first.Plain)
    (hparts : ∀ part ∈ parts, part.2.Plain) :
    renderTemplate? f ctx (tableTemplate first parts)
      = some ⟨filledTemplate f ctx first parts,
          formatBlocks (filledTemplate f ctx first parts)⟩ := by
  rw [renderTemplate?, render?_tableTemplate f ctx hfirst hparts, Option.map_some]

/-- One pending payment. -/
def Context.onePending (description : Text) : Context where
  documentType := .agreement
  today := ⟨2025, 3, 1, by decide, by decide⟩
  pending := [{ id := 1, description := some description }]

end Conveyance
