import Conveyance.Proofs.Markup.Conservation

/-!
# Proofs/Markup/Tagged — texts with tags and texts without

A text is untagged when none of the six tags stands anywhere in it.  Reading takes the ink of a tag
away, so **the blocks of a text that is not untagged hold less ink than the text**
(`length_ink_formatBlocks_lt`).
-/

namespace Conveyance

namespace Text

/-- No tag stands in a text. -/
def Untagged (t : Text) : Prop := ∀ g : Tag, ¬ g.text <:+: t

theorem Untagged.of_infix {s t : Text} (h : Untagged t) (hst : s <:+: t) : Untagged s :=
  fun g hg => h g (hg.trans hst)

theorem Untagged.read?_eq_none {t : Text} (h : Untagged t) : Tag.read? t = none := by
  cases hread : Tag.read? t with
  | none => rfl
  | some found =>
    obtain ⟨g, rest⟩ := found
    exact absurd ⟨[], rest, by rw [Tag.eq_append_of_read? hread]; simp⟩ (h g)

/-- Every tag starts with a tilde. -/
theorem untagged_of_notMem {t : Text} (h : '~' ∉ t) : Untagged t := by
  intro g hg
  refine h (hg.subset ?_)
  cases g <;> simp [Tag.text]

/-- **Where a tag stands, a tag is read**, perhaps one that starts before it. -/
theorem exists_tag_mem_signs {g : Tag} {t : Text} (h : g.text <:+: t) :
    ∃ g', Sign.tag g' ∈ signs t := by
  obtain ⟨before, after, rfl⟩ := h
  induction before with
  | nil =>
    rw [List.nil_append, signs_of_read? (g.read?_append after)]
    exact ⟨g, List.mem_cons_self⟩
  | cons c before ih =>
    obtain ⟨g', hmem⟩ := ih
    cases hread : Tag.read? (c :: (before ++ g.text ++ after)) with
    | none =>
      have hsigns := signs_cons_of_read?_eq_none hread
      exact ⟨g', hsigns.symm ▸ List.mem_cons_of_mem (.char c) hmem⟩
    | some found =>
      have hsigns := signs_of_read? hread
      exact ⟨found.1, hsigns.symm ▸ List.mem_cons_self⟩

theorem length_ink_tag_pos (g : Tag) : 0 < (ink g.text).length := by
  rcases g with (_ | _ | _) | (_ | _ | _) <;> decide

/-- Reading adds no ink, and a tag that is read takes ink away. -/
theorem length_alignedInk_signs (t : Text) (frames : List Alignment) :
    (Sign.alignedInk frames (signs t)).length ≤ (ink t).length ∧
      ((∃ g, Sign.tag g ∈ signs t) →
        (Sign.alignedInk frames (signs t)).length < (ink t).length) := by
  fun_induction signs t generalizing frames with
  | case1 =>
    refine ⟨Nat.le_refl 0, ?_⟩
    rintro ⟨g, h⟩
    cases h
  | case2 c t g rest hread _ ih =>
    have hlt : (Sign.alignedInk frames (.tag g :: signs rest)).length < (ink (c :: t)).length := by
      have htag := length_ink_tag_pos g
      have hrest : (Sign.alignedInk (g.move frames) (signs rest)).length ≤ (ink rest).length :=
        (ih (g.move frames)).1
      rw [Sign.alignedInk, Tag.eq_append_of_read? hread, ink_append, List.length_append]
      omega
    exact ⟨Nat.le_of_lt hlt, fun _ => hlt⟩
  | case3 c t hread ih =>
    obtain ⟨hle, hlt⟩ := ih frames
    have hchar : (Sign.alignedInk frames (.char c :: signs t)).length
        = (ink [c]).length + (Sign.alignedInk frames (signs t)).length := by
      rw [Sign.alignedInk, List.length_append, inkIn, List.length_map]
    rw [hchar, ink_cons_eq_append c t, List.length_append]
    refine ⟨Nat.add_le_add_left hle _, ?_⟩
    rintro ⟨g, hg⟩
    rcases List.mem_cons.1 hg with hg | hg
    · cases hg
    · exact Nat.add_lt_add_left (hlt ⟨g, hg⟩) _

end Text

/-- The blocks of a text hold no more ink than was read. -/
theorem length_ink_formatBlocks_le (t : Text) :
    ((formatBlocks t).flatMap Block.ink).length ≤ (Text.alignedInk t).length := by
  rw [flatMap_ink_formatBlocks, ← Text.flatMap_ink_fragments]
  refine Text.length_flatMap_le fun f _ => ?_
  rw [Fragment.kept, Fragment.ink, Text.inkIn_append, List.length_append]
  split
  · exact Nat.zero_le _
  · exact Nat.le_add_left _ _

/-- **The blocks of a text with a tag hold less ink than the text.** -/
theorem length_ink_formatBlocks_lt {g : Tag} {t : Text} (h : g.text <:+: Text.unixLines t) :
    ((formatBlocks t).flatMap Block.ink).length < (Text.ink (Text.unixLines t)).length := by
  have hread := (Text.length_alignedInk_signs (Text.unixLines t) []).2
    (Text.exists_tag_mem_signs h)
  exact Nat.lt_of_le_of_lt (length_ink_formatBlocks_le t) hread

end Conveyance
