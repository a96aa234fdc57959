import Conveyance.Proofs.Number.Range
import Conveyance.Proofs.Resolve.OnePass

/-!
# Proofs/Resolve/Overflow — when a template cannot be filled in

A gap in the records is filled in with nothing, so only a total can keep a template from being
filled in: one whose running sum leaves the range of decimals (`AsksTooMuch`).  **Without records
every template is filled in** (`exists_renderTemplate?_empty`).
-/

namespace Conveyance

variable (f : Format) (ctx : Context) (template : Text)

/-- **The template asks for a total that cannot be written**: a running sum of its amounts, taken
from left to right, leaves the range of decimals. -/
def AsksTooMuch : Prop :=
  ∃ c, Token.placeholder (.total c) ∈ Token.scan template ∧ Decimal.LeavesRange (c.amounts ctx)

/-- **Filling in a template fails only on a total.** -/
theorem render?_eq_none_iff : render? f ctx template = none ↔ AsksTooMuch ctx template := by
  have hrender : render? f ctx template
      = ((Token.scan template).foldlM (Filling.take f ctx) {}).map (·.text) := rfl
  rw [hrender, Option.map_eq_none_iff]
  rcases Filling.Holds.init.exists_foldlM f ctx (Token.scan template) with
    ⟨s', parts, hrun, -, htokens, htexts⟩ | ⟨hrun, token, htoken, hnone⟩
  · refine iff_of_false (by simp [hrun]) ?_
    rintro ⟨c, hc, hrange⟩
    rw [← htokens] at hc
    obtain ⟨p, hp, htoken⟩ := List.mem_map.1 hc
    have htext := htexts p hp
    have htotal : c.total? ctx = none := Decimal.sum?_eq_none_iff.2 hrange
    rw [htoken, Token.resolve?, Placeholder.resolve?, htotal] at htext
    cases htext
  · refine iff_of_true hrun ?_
    obtain ⟨c, rfl, htotal⟩ := Token.eq_total_of_resolve? f ctx hnone
    exact ⟨c, htoken, Decimal.sum?_eq_none_iff.1 htotal⟩

/-- The totals of no records are zero. -/
theorem not_asksTooMuch_empty (type : DocumentType) (today : Date) :
    ¬AsksTooMuch (.empty type today) template := by
  rintro ⟨c, -, before, d, after, s, hamounts, -⟩
  have hnil : c.amounts (.empty type today) = [] := by cases c <;> rfl
  rw [hnil] at hamounts
  exact List.append_ne_nil_of_right_ne_nil before (List.cons_ne_nil d after) hamounts.symm

theorem exists_renderTemplate?_empty (type : DocumentType) (today : Date) :
    ∃ r, renderTemplate? f (.empty type today) template = some r := by
  rw [renderTemplate?]
  rcases hrender : render? f (.empty type today) template with _ | text
  · exact absurd ((render?_eq_none_iff f _ template).1 hrender)
      (not_asksTooMuch_empty template type today)
  · exact ⟨_, rfl⟩

end Conveyance
