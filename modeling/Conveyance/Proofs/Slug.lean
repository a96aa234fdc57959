import Conveyance.Proofs.FileName
import Conveyance.Proofs.Text.Parts

/-!
# Proofs/Slug — the slug of a name, letter by letter

Every name is letters and digits of ASCII with something between them (`exists_cut`).  Its slug spells
these out in small letters, **with a dash where a separator stood between two of them**
(`slug_eq_spelled`), and where a name has none, only there, the fallback stands in.  What is spelled out
is parted by its dashes and is its own slug (`slug_spelled`).
-/

namespace Conveyance.FileName

/-- A letter or digit of a name, and what stands between it and the next one. -/
structure Kept where
  char : Char
  gap : Text

/-- The part of a name that starts with a letter or digit. -/
def Kept.text (k : Kept) : Text := k.char :: k.gap

/-- **A name taken apart** at its letters and digits. -/
structure Cut (name lead : Text) (kept : List Kept) : Prop where
  eq : name = lead ++ kept.flatMap Kept.text
  lead : ∀ c ∈ lead, c.isAlphanum = false
  char : ∀ k ∈ kept, k.char.isAlphanum = true
  gap : ∀ k ∈ kept, ∀ c ∈ k.gap, c.isAlphanum = false

/-- The dash for a gap that has a separator in it. -/
def dash (gap : Text) : Text := if gap.any isSeparator then ['-'] else []

/-- **Letters and digits spelled out**: in small letters, with the dashes of the gaps between them.
What follows the last one leaves nothing. -/
def spelled : List Kept → Text
  | [] => []
  | [k] => [k.char.toLower]
  | k :: next :: rest => k.char.toLower :: dash k.gap ++ spelled (next :: rest)

/-! ## Reading a name -/

theorem exists_cut : ∀ name : Text, ∃ lead kept, Cut name lead kept
  | [] => ⟨[], [], rfl, nofun, nofun, nofun⟩
  | c :: t => by
      obtain ⟨lead, kept, hcut⟩ := exists_cut t
      cases hc : c.isAlphanum with
      | true =>
        refine ⟨[], ⟨c, lead⟩ :: kept, ?_, nofun, List.forall_mem_cons.2 ⟨hc, hcut.char⟩,
          List.forall_mem_cons.2 ⟨hcut.lead, hcut.gap⟩⟩
        rw [hcut.eq]
        rfl
      | false =>
        refine ⟨c :: lead, kept, ?_, List.forall_mem_cons.2 ⟨hc, hcut.lead⟩, hcut.char, hcut.gap⟩
        rw [hcut.eq]
        rfl

/-- Names without letters and digits keep nothing. -/
theorem Cut.eq_nil_iff {name lead : Text} {kept : List Kept} (h : Cut name lead kept) :
    kept = [] ↔ ∀ c ∈ name, c.isAlphanum = false := by
  constructor
  · rintro rfl
    rw [h.eq, List.flatMap_nil, List.append_nil]
    exact h.lead
  · intro hnone
    rw [List.eq_nil_iff_forall_not_mem]
    intro k hk
    have hmem : k.char ∈ name := by
      rw [h.eq]
      exact List.mem_append_right _ (List.mem_flatMap.2 ⟨k, hk, List.mem_cons_self⟩)
    exact absurd (h.char k hk) (Bool.eq_false_iff.1 (hnone k.char hmem))

/-- **Between letters and digits only separators count.** -/
theorem slugFrom_gap (started : Bool) (t : Text) :
    ∀ (gap : Bool) {skipped : Text}, (∀ c ∈ skipped, c.isAlphanum = false) →
      slugFrom started gap (skipped ++ t) = slugFrom started (gap || skipped.any isSeparator) t
  | gap, [], _ => by rw [List.any_nil, Bool.or_false, List.nil_append]
  | gap, c :: skipped, h => by
      obtain ⟨hc, hskipped⟩ := List.forall_mem_cons.1 h
      rw [List.cons_append, slugFrom, if_neg (Bool.eq_false_iff.1 hc),
        slugFrom_gap started t (gap || isSeparator c) hskipped, List.any_cons, Bool.or_assoc]

theorem slugFrom_of_isAlphanum (started gap : Bool) {c : Char} (hc : c.isAlphanum = true) (t : Text) :
    slugFrom started gap (c :: t) =
      (if started && gap then ['-'] else []) ++ c.toLower :: slugFrom true false t := by
  rw [slugFrom, if_pos hc]

/-- **The letters and digits of a name are spelled out**, behind a dash if something stands before
them. -/
theorem slugFrom_kept (started : Bool) : ∀ (gap : Bool) {kept : List Kept}, kept ≠ [] →
    (∀ k ∈ kept, k.char.isAlphanum = true) → (∀ k ∈ kept, ∀ c ∈ k.gap, c.isAlphanum = false) →
    slugFrom started gap (kept.flatMap Kept.text) =
      (if started && gap then ['-'] else []) ++ spelled kept
  | gap, [k], _, hchar, hgap => by
      have hk := List.mem_singleton_self k
      rw [List.flatMap_singleton, Kept.text, slugFrom_of_isAlphanum _ _ (hchar k hk),
        ← List.append_nil k.gap, slugFrom_gap true [] false (hgap k hk)]
      rfl
  | gap, k :: next :: rest, _, hchar, hgap => by
      rw [List.forall_mem_cons] at hchar hgap
      rw [List.flatMap_cons, Kept.text, List.cons_append, slugFrom_of_isAlphanum _ _ hchar.1,
        slugFrom_gap true _ false hgap.1,
        slugFrom_kept true _ (List.cons_ne_nil next rest) hchar.2 hgap.2]
      rfl

variable {name lead : Text} {kept : List Kept}

/-- **A slug spells out the letters and digits of the name**, and is the fallback when there are
none. -/
theorem slug_eq_spelled (h : Cut name lead kept) (fallback : Text) :
    slug name fallback = if kept = [] then fallback else spelled kept := by
  have hfrom : slugFrom false false name = spelled kept := by
    rw [h.eq, slugFrom_gap false _ false h.lead]
    rcases kept with _ | ⟨k, rest⟩
    · rfl
    · exact slugFrom_kept false _ (List.cons_ne_nil k rest) h.char h.gap
  rw [slug, hfrom]
  rcases kept with _ | ⟨k, _ | ⟨next, rest⟩⟩ <;> rfl

/-! ## What is spelled out -/

theorem toLower_ne_dash {c : Char} (h : c.isAlphanum = true) : c.toLower ≠ '-' :=
  of_decide_eq_true (of_isAlphanum (p := fun c => decide (c.toLower ≠ '-')) (by decide +kernel) h)

theorem isAlphanum_toLower {c : Char} (h : c.isAlphanum = true) : c.toLower.isAlphanum = true :=
  of_isAlphanum (p := fun c => c.toLower.isAlphanum) (by decide +kernel) h

theorem toLower_toLower {c : Char} (h : c.isAlphanum = true) : c.toLower.toLower = c.toLower :=
  of_decide_eq_true
    (of_isAlphanum (p := fun c => decide (c.toLower.toLower = c.toLower)) (by decide +kernel) h)

/-- Something stands on both sides of every dash. -/
theorem nil_notMem_splitOn_spelled : ∀ {kept : List Kept}, kept ≠ [] →
    (∀ k ∈ kept, k.char.isAlphanum = true) → [] ∉ Text.splitOn '-' (spelled kept)
  | [k], _, hchar => by
      have hk := toLower_ne_dash (hchar k (List.mem_singleton_self k))
      rw [spelled, Text.splitOn_cons_of_ne hk rfl, List.mem_singleton]
      exact (List.cons_ne_nil _ _).symm
  | k :: next :: rest, _, hchar => by
      rw [List.forall_mem_cons] at hchar
      have hk := toLower_ne_dash hchar.1
      have ih := nil_notMem_splitOn_spelled (List.cons_ne_nil next rest) hchar.2
      rw [spelled, dash, List.cons_append]
      split
      · rw [List.singleton_append, Text.splitOn_cons_of_ne hk (Text.splitOn_cons_self '-' _),
          List.mem_cons, not_or]
        exact ⟨(List.cons_ne_nil _ _).symm, ih⟩
      · obtain ⟨part, parts, hparts⟩ :=
          List.exists_cons_of_ne_nil (Text.splitOn_ne_nil '-' (spelled (next :: rest)))
        rw [hparts, List.mem_cons, not_or] at ih
        rw [List.nil_append, Text.splitOn_cons_of_ne hk hparts, List.mem_cons, not_or]
        exact ⟨(List.cons_ne_nil _ _).symm, ih.2⟩

/-- **What is spelled out is read as it stands.** -/
theorem slugFrom_spelled (started : Bool) : ∀ (gap : Bool) {kept : List Kept}, kept ≠ [] →
    (∀ k ∈ kept, k.char.isAlphanum = true) →
    slugFrom started gap (spelled kept) = (if started && gap then ['-'] else []) ++ spelled kept
  | gap, [k], _, hchar => by
      have hk := hchar k (List.mem_singleton_self k)
      rw [spelled, slugFrom_of_isAlphanum _ _ (isAlphanum_toLower hk), toLower_toLower hk]
      rfl
  | gap, k :: next :: rest, _, hchar => by
      rw [List.forall_mem_cons] at hchar
      have hdash : ∀ c ∈ dash k.gap, c.isAlphanum = false := by
        rw [dash]
        split
        · exact List.forall_mem_singleton.2 rfl
        · nofun
      have hany : (dash k.gap).any isSeparator = k.gap.any isSeparator := by
        rw [dash]
        split
        next h => exact h.symm
        next h => exact (Bool.eq_false_iff.2 h).symm
      rw [spelled, List.cons_append, slugFrom_of_isAlphanum _ _ (isAlphanum_toLower hchar.1),
        toLower_toLower hchar.1, slugFrom_gap true _ false hdash, Bool.false_or, hany,
        slugFrom_spelled true _ (List.cons_ne_nil next rest) hchar.2]
      rfl

/-- **What is spelled out is its own slug.** -/
theorem slug_spelled (hne : kept ≠ []) (hchar : ∀ k ∈ kept, k.char.isAlphanum = true)
    (fallback : Text) : slug (spelled kept) fallback = spelled kept := by
  rw [slug, slugFrom_spelled false false hne hchar]
  rcases kept with _ | ⟨k, _ | ⟨next, rest⟩⟩
  · exact absurd rfl hne
  · rfl
  · rfl

end Conveyance.FileName
