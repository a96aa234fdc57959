import Conveyance.Proofs.Resolve.TableTemplate

/-!
# Proofs/Resolve/ManyTables — when the tables of a template stay apart

The tables of a template without tildes are read back from its lines.  **Two tables stay apart
exactly when something else than a single newline stands between their placeholders**: nothing at
all and any other text leave a line between the tables that is no row (`exists_tableGap`), while a
single newline puts the header of the second table directly below the first one
(`tableGap_newline`).
-/

namespace Conveyance

variable (f : Format) (ctx : Context)

/-! ## Gaps -/

/-- A single newline stays a single newline. -/
theorem tableGap_newline : tableGap ['\n'] = ['\n'] := rfl

/-- Text behind a table goes on from the next line. -/
theorem exists_behindTable {t : Text} (ht : t ≠ []) :
    ∃ rest, behindTable t = '\n' :: rest ∧ (t = '\n' :: rest ∨ t = rest) := by
  obtain ⟨c, t, rfl⟩ := List.exists_cons_of_ne_nil ht
  by_cases hc : c = '\n'
  · exact ⟨t, by simp [behindTable, hc], .inl (by rw [hc])⟩
  · exact ⟨c :: t, by simp [behindTable, hc], .inr rfl⟩

/-- **Any other text between two placeholders leaves a line between the tables.** -/
theorem exists_tableGap {t : Text} (h : t ≠ ['\n']) :
    ∃ inner, tableGap t = '\n' :: (inner ++ ['\n']) ∧ ∀ c ∈ inner, c ∈ t := by
  by_cases ht : t = []
  · exact ⟨[], by rw [tableGap, if_pos ht]; rfl, by simp⟩
  · obtain ⟨rest, hbehind, hrest⟩ := exists_behindTable ht
    have hne : rest ≠ [] := by
      rintro rfl
      rcases hrest with rfl | rfl
      · exact h rfl
      · exact ht rfl
    have hlast : t.getLast? = rest.getLast? := by
      rcases hrest with rfl | rfl
      · exact List.getLast?_cons_of_ne_nil hne
      · rfl
    have hmem : ∀ c ∈ rest, c ∈ t := by
      rcases hrest with rfl | rfl
      · exact fun c hc => List.mem_cons_of_mem _ hc
      · exact fun c hc => hc
    obtain ⟨before, d, rfl⟩ := Text.exists_eq_concat hne
    rw [tableGap, if_neg ht, hbehind, hlast, List.getLast?_concat]
    by_cases hd : d = '\n'
    · exact ⟨before, by simp [hd], fun c hc => hmem c (List.mem_append_left _ hc)⟩
    · exact ⟨before ++ [d], by simp [hd], hmem⟩

/-- **A line aside** of all tables: it is no row and no heading and holds no tag. -/
structure Text.Aside (line : Text) : Prop where
  isRow : Row.isRow line = false
  unmarked : line.Unmarked
  notMem : '~' ∉ line

theorem Text.Plain.aside {t line : Text} (ht : t.Plain) (h : ∀ c ∈ line, c ∈ t) : line.Aside where
  isRow := Row.isRow_of_notMem fun hbar => (ht '|' (h _ hbar)).2.1 rfl
  unmarked := by
    intro hmark
    have hmem := List.dropWhile_subset _ (List.mem_of_mem_head? hmark)
    exact (ht '#' (h _ hmem)).2.2.2 rfl
  notMem := fun htilde => (ht '~' (h _ htilde)).2.2.1 rfl

/-! ## Lines -/

/-- The tables that the lines of a template make, after the rows of a table that is open. -/
def mergedTables (rows : List Text) :
    List (Collection × Text) → List (List Text × List (List Text))
  | [] => Row.table rows
  | (c, behind) :: parts =>
    if behind = ['\n'] ∧ parts ≠ [] then
      mergedTables (rows ++ (Table.ofCollection f ctx c).lines) parts
    else
      Row.table (rows ++ (Table.ofCollection f ctx c).lines) ++ mergedTables [] parts

/-- The lines of tables that are filled in. -/
def filledLines (parts : List (Collection × Text)) : List Text :=
  if parts = [] then [] else Text.lines (filledTables f ctx parts)

/-- **The lines of a table stand first**, then lines of the text behind it, then the lines of the
other tables; there is none in between exactly when the text is a single newline. -/
theorem exists_filledLines_cons (c : Collection) {behind : Text} (hbehind : behind.Plain)
    (parts : List (Collection × Text)) : ∃ aside : List Text,
      filledLines f ctx ((c, behind) :: parts)
          = (Table.ofCollection f ctx c).lines ++ (aside ++ filledLines f ctx parts) ∧
        (∀ line ∈ aside, line.Aside) ∧ (parts ≠ [] → (aside = [] ↔ behind = ['\n'])) := by
  rcases parts with _ | ⟨next, parts⟩
  · by_cases hempty : behind = []
    · refine ⟨[], ?_, by simp, fun h => absurd rfl h⟩
      simp [filledLines, filledTables, hempty, behindTable, Table.lines_markup]
    · obtain ⟨rest, hrest, hmem⟩ := exists_behindTable hempty
      refine ⟨Text.lines rest, ?_, fun line hline => hbehind.aside fun d hd => ?_,
        fun h => absurd rfl h⟩
      · simp [filledLines, filledTables, hrest, Table.lines_markup_append]
      · have hd := Text.mem_of_mem_lines hline hd
        rcases hmem with rfl | rfl
        · exact List.mem_cons_of_mem _ hd
        · exact hd
  · by_cases hnewline : behind = ['\n']
    · refine ⟨[], ?_, by simp, fun _ => ⟨fun _ => hnewline, fun _ => rfl⟩⟩
      simp [filledLines, filledTables, hnewline, tableGap_newline, Table.lines_markup_append]
    · obtain ⟨inner, hgap, hmem⟩ := exists_tableGap hnewline
      obtain ⟨aside, hne, haside, hlines⟩ := Text.exists_lines_append inner
      refine ⟨aside, ?_, fun line hline => hbehind.aside fun d hd => ?_,
        fun _ => ⟨fun h => absurd h hne, fun h => absurd h hnewline⟩⟩
      · simp [filledLines, filledTables, hgap, Table.lines_markup_append, hlines]
      · exact hmem d (haside line hline d hd)

/-- **The tables of the lines are the tables of the template**, merged where nothing stands between
them. -/
theorem tables_filledLines {parts : List (Collection × Text)}
    (hparts : ∀ part ∈ parts, part.2.Plain) (rows : List Text) :
    Row.tables rows (filledLines f ctx parts) = mergedTables f ctx rows parts := by
  induction parts generalizing rows with
  | nil => rfl
  | cons part parts ih =>
    obtain ⟨c, behind⟩ := part
    obtain ⟨aside, hlines, haside, hiff⟩ :=
      exists_filledLines_cons f ctx c (hparts (c, behind) List.mem_cons_self) parts
    have ih := ih fun part hpart => hparts part (List.mem_cons_of_mem _ hpart)
    rw [hlines, Row.tables_append_of_isRow fun line hline =>
      (Table.readable_ofCollection f ctx c).isRow_of_mem_lines hline, mergedTables]
    by_cases hempty : aside = []
    · -- the rows of the next table join the ones that are open
      rw [hempty, List.nil_append, ih]
      by_cases hlast : parts = []
      · rw [if_neg fun h => h.2 hlast, hlast, mergedTables, mergedTables]
        exact (List.append_nil _).symm
      · rw [if_pos ⟨(hiff hlast).1 hempty, hlast⟩]
    · rw [Row.tables_append_of_not_isRow hempty fun line hline => (haside line hline).isRow, ih,
        if_neg fun h => hempty ((hiff h.2).2 h.1)]

/-- No line of the tables is a heading or holds a tag. -/
theorem of_mem_filledLines {parts : List (Collection × Text)}
    (hcells : ∀ part ∈ parts, ∀ row ∈ (Table.ofCollection f ctx part.1).rows, ∀ cell ∈ row,
      '~' ∉ cell)
    (hparts : ∀ part ∈ parts, part.2.Plain) :
    ∀ line ∈ filledLines f ctx parts, line.Unmarked ∧ '~' ∉ line := by
  induction parts with
  | nil => simp [filledLines]
  | cons part parts ih =>
    obtain ⟨c, behind⟩ := part
    obtain ⟨aside, hlines, haside, _⟩ :=
      exists_filledLines_cons f ctx c (hparts (c, behind) List.mem_cons_self) parts
    intro line hline
    rw [hlines, List.mem_append, List.mem_append] at hline
    rcases hline with hline | hline | hline
    · refine ⟨Table.unmarked_of_mem_lines hline, Table.notMem_tilde_of_mem_lines ?_ hline⟩
      intro row hrow
      rcases List.mem_cons.1 hrow with rfl | hrow
      · exact (Table.header_facts c).2
      · exact hcells (c, behind) List.mem_cons_self row hrow
    · exact ⟨(haside line hline).unmarked, (haside line hline).notMem⟩
    · exact ih (fun part hpart => hcells part (List.mem_cons_of_mem _ hpart))
        (fun part hpart => hparts part (List.mem_cons_of_mem _ hpart)) line hline

/-- The text in front of the first table stands aside. -/
theorem exists_lines_filledTemplate {first : Text} (hfirst : first.Plain)
    (parts : List (Collection × Text)) : ∃ aside : List Text,
      Text.lines (filledTemplate f ctx first parts) = aside ++ filledLines f ctx parts ∧
        ∀ line ∈ aside, line.Aside := by
  rcases parts with _ | ⟨part, parts⟩
  · refine ⟨Text.lines first, by simp [filledTemplate, filledLines], fun line hline => ?_⟩
    exact hfirst.aside fun c hc => Text.mem_of_mem_lines hline hc
  · by_cases hempty : first = []
    · exact ⟨[], by simp [filledTemplate, filledLines, hempty, beforeTable], by simp⟩
    · obtain ⟨before, hbefore, hmem⟩ : ∃ before, beforeTable first = before ++ ['\n'] ∧
          ∀ c ∈ before, c ∈ first := by
        rw [beforeTable]
        split
        · next h =>
          obtain ⟨before, rfl⟩ := List.getLast?_eq_some_iff.1 (h.resolve_left hempty)
          exact ⟨before, rfl, fun c hc => List.mem_append_left _ hc⟩
        · exact ⟨first, rfl, fun c hc => hc⟩
      obtain ⟨aside, _, haside, hlines⟩ := Text.exists_lines_append before
      refine ⟨aside, by simp [filledTemplate, filledLines, hbefore, hlines], fun line hline => ?_⟩
      exact hfirst.aside fun c hc => hmem c (haside line hline c hc)

/-- **The tables of a table template.** -/
theorem tables_filledTemplate {first : Text} {parts : List (Collection × Text)}
    (hcells : ∀ part ∈ parts, ∀ row ∈ (Table.ofCollection f ctx part.1).rows, ∀ cell ∈ row,
      '~' ∉ cell)
    (hfirst : first.Plain) (hparts : ∀ part ∈ parts, part.2.Plain) :
    (formatBlocks (filledTemplate f ctx first parts)).filterMap Block.table?
      = mergedTables f ctx [] parts := by
  obtain ⟨aside, hlines, haside⟩ := exists_lines_filledTemplate f ctx hfirst parts
  have hall : ∀ line ∈ Text.lines (filledTemplate f ctx first parts),
      line.Unmarked ∧ '~' ∉ line := by
    intro line hline
    rcases List.mem_append.1 (hlines ▸ hline) with hline | hline
    · exact ⟨(haside line hline).unmarked, (haside line hline).notMem⟩
    · exact of_mem_filledLines f ctx hcells hparts line hline
  have htag := Text.untagged_unixLines fun line hline => (hall line hline).2
  rw [tables_formatBlocks htag fun line hline => (hall line hline).1, hlines,
    ← tables_filledLines f ctx hparts]
  by_cases hempty : aside = []
  · rw [hempty, List.nil_append]
  · rw [Row.tables_append_of_not_isRow hempty fun line hline => (haside line hline).isRow]
    rfl

/-! ## Apart or merged -/

theorem length_table_le (rows : List Text) : (Row.table rows).length ≤ 1 := by
  rcases rows with _ | ⟨header, rows⟩
  · exact Nat.zero_le 1
  · exact Nat.le_refl 1

/-- There are no more tables than placeholders. -/
theorem length_mergedTables_le {parts : List (Collection × Text)} (hne : parts ≠ [])
    (rows : List Text) : (mergedTables f ctx rows parts).length ≤ parts.length := by
  induction parts generalizing rows with
  | nil => exact absurd rfl hne
  | cons part parts ih =>
    obtain ⟨c, behind⟩ := part
    rw [mergedTables, List.length_cons]
    split
    · next h =>
      have ih := ih h.2 (rows ++ (Table.ofCollection f ctx c).lines)
      omega
    · have htable := length_table_le (rows ++ (Table.ofCollection f ctx c).lines)
      have hrest : (mergedTables f ctx [] parts).length ≤ parts.length := by
        by_cases hparts : parts = []
        · rw [hparts]
          exact Nat.le_refl 0
        · exact ih hparts []
      rw [List.length_append]
      omega

/-- **A single newline between two placeholders costs a table.** -/
theorem length_mergedTables_lt {parts : List (Collection × Text)}
    (h : ∃ part ∈ parts.dropLast, part.2 = ['\n']) (rows : List Text) :
    (mergedTables f ctx rows parts).length < parts.length := by
  induction parts generalizing rows with
  | nil =>
    obtain ⟨part, hpart, _⟩ := h
    cases hpart
  | cons part parts ih =>
    obtain ⟨c, behind⟩ := part
    obtain ⟨part', hpart', hnewline⟩ := h
    rcases parts with _ | ⟨next, parts⟩
    · cases hpart'
    · rw [List.dropLast_cons_cons, List.mem_cons] at hpart'
      rw [mergedTables, List.length_cons]
      split
      · have hle := length_mergedTables_le f ctx (List.cons_ne_nil next parts)
          (rows ++ (Table.ofCollection f ctx c).lines)
        omega
      · next hapart =>
        rcases hpart' with rfl | hpart'
        · exact absurd ⟨hnewline, List.cons_ne_nil next parts⟩ hapart
        · have htable := length_table_le (rows ++ (Table.ofCollection f ctx c).lines)
          have hrest := ih ⟨part', hpart', hnewline⟩ []
          rw [List.length_append]
          omega

/-- **Without one, every placeholder has a table of its own.** -/
theorem mergedTables_eq_map {parts : List (Collection × Text)}
    (h : ∀ part ∈ parts.dropLast, part.2 ≠ ['\n']) :
    mergedTables f ctx [] parts
      = parts.map fun part => (Table.ofCollection f ctx part.1).shown := by
  induction parts with
  | nil => rfl
  | cons part parts ih =>
    obtain ⟨c, behind⟩ := part
    have htable := (Table.readable_ofCollection f ctx c).table_lines
    rcases parts with _ | ⟨next, parts⟩
    · rw [mergedTables, if_neg fun h => h.2 rfl, List.nil_append, htable]
      rfl
    · rw [List.dropLast_cons_cons] at h
      have ih := ih fun part hpart => h part (List.mem_cons_of_mem _ hpart)
      rw [mergedTables, if_neg fun hmerged => h (c, behind) List.mem_cons_self hmerged.1,
        List.nil_append, htable, ih]
      rfl

/-- **Every placeholder has a table block of its own**, in order, with the header of its collection
and a row for each entry, and there are no other table blocks. -/
def OwnTables (parts : List (Collection × Text)) (blocks : List Block) : Prop :=
  List.Forall₂ (fun table part =>
      table.1 = (Table.ofCollection f ctx part.1).header ∧ table.2.length = part.1.count ctx)
    (blocks.filterMap Block.table?) parts

/-- **Tables stay apart exactly when nowhere a single newline is all that stands between their
placeholders.** -/
theorem ownTables_renderTemplate?_iff {first : Text} {parts : List (Collection × Text)}
    (hcells : ∀ part ∈ parts, ∀ row ∈ (Table.ofCollection f ctx part.1).rows, ∀ cell ∈ row,
      '~' ∉ cell)
    (hfirst : first.Plain) (hparts : ∀ part ∈ parts, part.2.Plain) :
    ∃ r, renderTemplate? f ctx (tableTemplate first parts) = some r ∧
      (OwnTables f ctx parts r.blocks ↔ ∀ part ∈ parts.dropLast, part.2 ≠ ['\n']) := by
  refine ⟨_, renderTemplate?_tableTemplate f ctx hfirst hparts, ?_⟩
  rw [OwnTables, tables_filledTemplate f ctx hcells hfirst hparts]
  constructor
  · intro htables part hpart hnewline
    have hlt := length_mergedTables_lt f ctx ⟨part, hpart, hnewline⟩ []
    have hlength := htables.length_eq
    omega
  · intro hapart
    rw [mergedTables_eq_map f ctx hapart, List.forall₂_map_left_iff, List.forall₂_same]
    intro part _
    refine ⟨rfl, ?_⟩
    rw [Table.shown, List.length_map, Table.ofCollection, List.length_map, Collection.count]

/-- An empty line keeps two tables apart. -/
theorem ownTables_emptyLine :
    ∃ r, renderTemplate? {} (.onePending "Rest".toList)
        (tableTemplate [] [(.pending, ['\n', '\n']), (.milestones, [])]) = some r ∧
      OwnTables {} (.onePending "Rest".toList)
        [(.pending, ['\n', '\n']), (.milestones, [])] r.blocks := by
  have hcells : ∀ part ∈ [(Collection.pending, ['\n', '\n']), (.milestones, [])],
      ∀ row ∈ (Table.ofCollection {} (.onePending "Rest".toList) part.1).rows, ∀ cell ∈ row,
        '~' ∉ cell := by decide
  have hparts : ∀ part ∈ [(Collection.pending, ['\n', '\n']), (.milestones, [])],
      Text.Plain part.2 := by simp [Text.Plain]
  obtain ⟨r, hr, hiff⟩ := ownTables_renderTemplate?_iff {} (.onePending "Rest".toList) hcells
    (by simp [Text.Plain] : Text.Plain []) hparts
  exact ⟨r, hr, hiff.2 (by decide)⟩

/-- **Two placeholders on adjacent lines make one table**: the header of the second is a row of the
first. -/
theorem not_ownTables_adjacentLines :
    ¬ ∃ r, renderTemplate? {} (.onePending "Rest".toList)
        (tableTemplate [] [(.pending, ['\n']), (.milestones, [])]) = some r ∧
      OwnTables {} (.onePending "Rest".toList)
        [(.pending, ['\n']), (.milestones, [])] r.blocks := by
  have hfirst : Text.Plain [] := by simp [Text.Plain]
  have hcells : ∀ part ∈ [(Collection.pending, ['\n']), (.milestones, [])],
      ∀ row ∈ (Table.ofCollection {} (.onePending "Rest".toList) part.1).rows, ∀ cell ∈ row,
        '~' ∉ cell := by decide
  have hparts : ∀ part ∈ [(Collection.pending, ['\n']), (.milestones, [])],
      Text.Plain part.2 := by simp [Text.Plain]
  rintro ⟨r, hr, htables⟩
  rw [renderTemplate?_tableTemplate _ _ hfirst hparts] at hr
  obtain rfl := Option.some.inj hr
  rw [OwnTables, tables_filledTemplate _ _ hcells hfirst hparts] at htables
  have hlength := htables.length_eq
  have hnewline : ∃ part ∈ [(Collection.pending, ['\n']), (.milestones, [])].dropLast,
      part.2 = ['\n'] := ⟨_, List.mem_cons_self, rfl⟩
  have hlt := length_mergedTables_lt {} (.onePending "Rest".toList) hnewline []
  exact Nat.ne_of_lt hlt hlength

end Conveyance
