import Conveyance.Proofs.Checked.Fields
import Conveyance.Proofs.Number.Grouping

/-!
# Proofs/Number/Groups — how long the groups of a number are

Cut from one end, all parts of a run but the last are full (`exists_chunks_eq`).  Groups are counted
from the right, so **it is the first one that may be short** (`exists_groupsFromRight_eq`), and behind
them stand the last three digits.  Commas part these groups and nothing else (`splitOn_groupDigits`),
and the cuts lie between bytes, so the grouping of digits comes to its end (`groupDigits_groups`).
-/

namespace Conveyance.Grouping

/-- **Parts cut from the left are full**, and what is left over is the last of them. -/
theorem exists_chunks_eq (n : Nat) {t : Text} (ht : t ≠ []) :
    ∃ full last, chunks n t = full ++ [last] ∧ (∀ part ∈ full, part.length = n + 1) ∧
      1 ≤ last.length ∧ last.length ≤ n + 1 := by
  fun_induction chunks n t with
  | case1 => exact absurd rfl ht
  | case2 c t ih =>
    by_cases hrest : t.drop n = []
    · refine ⟨[], c :: t.take n, ?_, List.forall_mem_nil _, ?_⟩
      · rw [hrest, chunks]
        rfl
      · rw [List.length_cons, List.length_take]
        omega
    · obtain ⟨full, last, hchunks, hfull, hlast⟩ := ih hrest
      have hlength := List.length_pos_of_ne_nil hrest
      rw [List.length_drop] at hlength
      refine ⟨(c :: t.take n) :: full, last, by rw [hchunks]; rfl, ?_, hlast⟩
      rw [List.forall_mem_cons, List.length_cons, List.length_take]
      exact ⟨by omega, hfull⟩

variable (g : Grouping)

/-- **Groups counted from the right are full**, and what is left over is the first of them. -/
theorem exists_groupsFromRight_eq {t : Text} (ht : t ≠ []) :
    ∃ first rest, g.groupsFromRight t = first :: rest ∧ 1 ≤ first.length ∧
      first.length ≤ g.size ∧ ∀ group ∈ rest, group.length = g.size := by
  have hsize : g.size - 1 + 1 = g.size := Nat.sub_add_cancel g.size_pos
  obtain ⟨full, last, hchunks, hfull, hpos, hle⟩ :=
    exists_chunks_eq (g.size - 1) (mt List.reverse_eq_nil_iff.1 ht)
  rw [hsize] at hfull hle
  refine ⟨last.reverse, (full.map List.reverse).reverse, ?_, ?_, ?_, fun group hgroup => ?_⟩
  · rw [groupsFromRight, hchunks, List.map_append, List.reverse_append]
    rfl
  · rwa [List.length_reverse]
  · rwa [List.length_reverse]
  · obtain ⟨part, hpart, rfl⟩ := List.mem_map.1 (List.mem_reverse.1 hgroup)
    rw [List.length_reverse, hfull part hpart]

variable {digits : Text}

/-- The groups of a run, the last three digits among them. -/
def groups (digits : Text) : List Text :=
  g.groupsFromRight (digits.take (digits.length - 3)) ++ [digits.drop (digits.length - 3)]

/-- More than three digits are in several groups. -/
theorem exists_groups_eq (h : 3 < digits.length) :
    ∃ first middle last, g.groups digits = first :: (middle ++ [last]) ∧ 1 ≤ first.length ∧
      first.length ≤ g.size ∧ (∀ group ∈ middle, group.length = g.size) ∧ last.length = 3 := by
  have hhead : digits.take (digits.length - 3) ≠ [] := by
    refine List.ne_nil_of_length_pos ?_
    rw [List.length_take]
    omega
  obtain ⟨first, middle, hgroups, hpos, hle, hmiddle⟩ := g.exists_groupsFromRight_eq hhead
  refine ⟨first, middle, digits.drop (digits.length - 3), ?_, hpos, hle, hmiddle, ?_⟩
  · rw [groups, hgroups, List.cons_append]
  · rw [List.length_drop]
    omega

theorem groupDigits_eq_join (h : 3 < digits.length) :
    g.groupDigits digits = Text.join [','] (g.groups digits) := by
  obtain ⟨first, middle, last, hgroups, -⟩ := g.exists_groups_eq h
  have hne : g.groupsFromRight (digits.take (digits.length - 3)) ≠ [] := by
    intro hnil
    have hlength := congrArg List.length hgroups
    rw [groups, hnil, List.nil_append, List.length_singleton, List.length_cons, List.length_append,
      List.length_singleton] at hlength
    omega
  rw [groupDigits, if_neg (Nat.not_le.2 h), groups, Text.join_concat _ _ hne, List.append_assoc]
  rfl

/-- **Commas part the groups**, where the run has none of its own. -/
theorem splitOn_groupDigits (hcomma : ',' ∉ digits) (h : 3 < digits.length) :
    Text.splitOn ',' (g.groupDigits digits) = g.groups digits := by
  have hgroups : ∀ group ∈ g.groups digits, ',' ∉ group := by
    rw [groups, List.forall_mem_append, List.forall_mem_singleton]
    refine ⟨fun group hgroup hmem => ?_, fun hmem => hcomma (List.mem_of_mem_drop hmem)⟩
    have hflat := List.mem_flatten.2 ⟨group, hgroup, hmem⟩
    rw [flatten_groupsFromRight] at hflat
    exact hcomma (List.mem_of_mem_take hflat)
  rw [g.groupDigits_eq_join h]
  exact Text.splitOn_join (by simp [groups]) hgroups

/-- **Digits with separators are the digits in groups.**  The grouping comes to its end without a cut
inside a character; without the commas the digits are as they were, three of them or fewer stay
together, and of more the last three are a group, those before it are as large as the grouping says,
and only the first of them may be shorter. -/
theorem groupDigits_groups (h : ∀ c ∈ digits, c.isDigit = true) :
    g.groupDigitsBytes digits = .ok (g.groupDigits digits) ∧
    (g.groupDigits digits).filter (· != ',') = digits ∧
    Text.PartedBy ',' (g.groupDigits digits) ∧
    (digits.length ≤ 3 → g.groupDigits digits = digits) ∧
    (3 < digits.length → ∃ first middle last,
      Text.splitOn ',' (g.groupDigits digits) = first :: (middle ++ [last]) ∧
      1 ≤ first.length ∧ first.length ≤ g.size ∧ (∀ group ∈ middle, group.length = g.size) ∧
      last.length = 3) := by
  have hcomma : ',' ∉ digits := fun hmem => absurd (h ',' hmem) (by decide)
  have hplain : ∀ c ∈ digits, (c != ',') = true := fun c hc =>
    bne_iff_ne.2 fun heq => hcomma (heq ▸ hc)
  have hfew : digits.length ≤ 3 → g.groupDigits digits = digits := fun hlength => if_pos hlength
  refine ⟨groupDigitsBytes_eq h, ?_, ?_, hfew, fun hmany => ?_⟩
  · rw [g.filter_groupDigits (by decide), List.filter_eq_self.2 hplain]
  · rcases Nat.lt_or_ge 3 digits.length with hmany | hlength
    · refine Text.partedBy_of_splitOn ?_
      rw [g.splitOn_groupDigits hcomma hmany]
      obtain ⟨first, middle, last, hgroups, hpos, -, hmiddle, hlast⟩ := g.exists_groups_eq hmany
      have hsize := g.size_pos
      rw [hgroups, List.mem_cons, List.mem_append, List.mem_singleton]
      rintro (rfl | hmem | rfl)
      · exact absurd hpos (by decide)
      · rw [← hmiddle [] hmem] at hsize
        exact absurd hsize (by decide)
      · exact absurd hlast (by decide)
    · rw [hfew hlength]
      exact Text.partedBy_of_notMem hcomma
  · rw [g.splitOn_groupDigits hcomma hmany]
    exact g.exists_groups_eq hmany

/-- Ten digits are a single one, three groups of two, and the last three. -/
theorem groupDigits_groups_tenDigits :
    let digits := "1234567890".toList
    (∀ c ∈ digits, c.isDigit = true) ∧ 3 < digits.length ∧ ∃ first middle last,
      Text.splitOn ',' (indian.groupDigits digits) = first :: (middle ++ [last]) ∧
      1 ≤ first.length ∧ first.length ≤ indian.size ∧
      (∀ group ∈ middle, group.length = indian.size) ∧ last.length = 3 := by
  intro digits
  have hdigits : ∀ c ∈ digits, c.isDigit = true := List.all_eq_true.1 (by decide)
  exact ⟨hdigits, by decide, (indian.groupDigits_groups hdigits).2.2.2.2 (by decide)⟩

end Conveyance.Grouping
