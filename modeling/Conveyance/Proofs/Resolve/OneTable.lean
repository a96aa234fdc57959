import Conveyance.Proofs.Resolve.TableTemplate

/-!
# Proofs/Resolve/OneTable — a template that is one table

A template that is nothing but the placeholder of a table is rendered as one table block with the
cells of the table in it, **exactly when no cell holds an alignment tag**
(`renderTemplate?_tablePlaceholder`).  Bars, backslashes and line breaks are kept in their cell; a
tag is not, so it cuts its row and the text around it leaves the table.
-/

namespace Conveyance

theorem renderTemplate?_tablePlaceholder_eq (f : Format) (ctx : Context) (c : Collection) :
    renderTemplate? f ctx (tablePlaceholder c)
      = some ⟨(Table.ofCollection f ctx c).markup,
          formatBlocks (Table.ofCollection f ctx c).markup⟩ := by
  have hplain : Text.Plain [] := fun d hd => by cases hd
  have hparts : ∀ part ∈ [(c, ([] : Text))], Text.Plain part.2 := by
    intro part hpart
    rw [List.mem_singleton.1 hpart]
    exact hplain
  have htemplate : tableTemplate [] [(c, [])] = tablePlaceholder c := by simp [tableTemplate]
  have htext : filledTemplate f ctx [] [(c, [])] = (Table.ofCollection f ctx c).markup := by
    simp [filledTemplate, beforeTable, filledTables, behindTable]
  rw [← htemplate, renderTemplate?_tableTemplate f ctx hplain hparts, htext]

/-- **A table is rendered as one block, with its header and its cells, exactly when no tag stands in
a cell.**  The block has a row for each entry of the collection. -/
theorem renderTemplate?_tablePlaceholder (f : Format) (ctx : Context) (c : Collection) :
    ∃ r, renderTemplate? f ctx (tablePlaceholder c) = some r ∧
      (Table.ofCollection f ctx c).rows.length = c.count ctx ∧
      ((∃ text, r.blocks = [⟨.table (Table.ofCollection f ctx c).header
          ((Table.ofCollection f ctx c).rows.map (·.map Row.shown)), .left, text⟩]) ↔
        ∀ row ∈ (Table.ofCollection f ctx c).rows, ∀ cell ∈ row, ∀ g : Tag,
          ¬ g.text <:+: cell) := by
  have hread := Table.readable_ofCollection f ctx c
  refine ⟨_, renderTemplate?_tablePlaceholder_eq f ctx c, List.length_map _, ?_⟩
  constructor
  · rintro ⟨text, hblocks⟩
    exact Table.untagged_ofCollection_iff.1 (hread.untagged_of_formatBlocks hblocks)
  · intro htag
    exact ⟨_, hread.formatBlocks_markup (Table.untagged_ofCollection_iff.2 htag)⟩

/-- **A tag in a description cuts the table**: what is rendered is not the one table. -/
theorem blocks_onePending_tag_ne :
    ¬ ∃ text, (renderTemplate? {} (.onePending "a~center~b".toList)
        (tablePlaceholder .pending)).map (·.blocks)
      = some [⟨.table (Table.ofCollection {} (.onePending "a~center~b".toList) .pending).header
          ((Table.ofCollection {} (.onePending "a~center~b".toList) .pending).rows.map
            (·.map Row.shown)), .left, text⟩] := by
  rintro ⟨text, h⟩
  rw [renderTemplate?_tablePlaceholder_eq, Option.map_some] at h
  have htag := (Table.readable_ofCollection _ _ _).untagged_of_formatBlocks (Option.some.inj h)
  have hrow : ["1".toList, "a~center~b".toList, [], [], []]
      ∈ (Table.ofCollection {} (.onePending "a~center~b".toList) .pending).rows := by decide
  exact htag _ (List.mem_cons_of_mem _ hrow) "a~center~b".toList (by simp) (.opening .center)
    ⟨['a'], ['b'], rfl⟩

end Conveyance
