import Conveyance.Number.Grouping
import Conveyance.Proofs.Text.Parts

/-!
# Proofs/Number/Grouping — separators and nothing else

The groups of a run of digits, put together, are the run (`flatten_groupsFromRight`), so grouping
puts commas between digits and does nothing else: **whatever looks past commas sees the run that was
grouped** (`filter_groupDigits`).
-/

namespace Conveyance.Grouping

theorem flatten_chunks (n : Nat) (t : Text) : (chunks n t).flatten = t := by
  fun_induction chunks n t with
  | case1 => rfl
  | case2 c t ih => rw [List.flatten_cons, ih, List.cons_append, List.take_append_drop]

/-- The groups of a run are the run in parts. -/
theorem flatten_groupsFromRight (g : Grouping) (t : Text) : (g.groupsFromRight t).flatten = t := by
  rw [groupsFromRight, ← List.reverse_flatten, flatten_chunks, List.reverse_reverse]

/-- **Only commas are put in.** -/
theorem filter_groupDigits (g : Grouping) {p : Char → Bool} (hp : p ',' = false) (t : Text) :
    (g.groupDigits t).filter p = t.filter p := by
  rw [groupDigits]
  split
  · rfl
  · have hcomma : [','].filter p = [] := by simp [hp]
    dsimp only
    rw [List.filter_append, Text.filter_join, hcomma, Text.join_nil, ← List.filter_flatten,
      flatten_groupsFromRight, List.filter_cons_of_neg (by simp [hp]), ← List.filter_append,
      List.take_append_drop]

end Conveyance.Grouping
