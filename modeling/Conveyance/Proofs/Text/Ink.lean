import Conveyance.Proofs.Text.Parts

/-!
# Proofs/Text/Ink — the characters of a text that are not blank

Blocks are compared up to white space: `Text.ink` drops the blank characters of a text and keeps
everything else in its order.  Trimming, and joining lines by newlines, **change the blanks only**.
-/

namespace Conveyance.Text

/-- The characters of a text that are not blank. -/
def ink (t : Text) : Text := t.filter fun c => !isBlank c

@[simp] theorem ink_nil : ink [] = [] := rfl

theorem ink_cons (c : Char) (t : Text) :
    ink (c :: t) = if isBlank c then ink t else c :: ink t := by
  cases h : isBlank c <;> simp [ink, h]

@[simp] theorem ink_append (s t : Text) : ink (s ++ t) = ink s ++ ink t := List.filter_append ..

theorem ink_eq_nil {t : Text} : ink t = [] ↔ allBlank t = true := by
  simp [ink, allBlank, List.filter_eq_nil_iff]

theorem ink_cons_eq_append (c : Char) (t : Text) : ink (c :: t) = ink [c] ++ ink t := by
  rw [← ink_append, List.singleton_append]

/-- A class of blank characters goes from the start without a trace. -/
theorem ink_dropWhile {p : Char → Bool} (hp : ∀ c, p c = true → isBlank c = true) :
    ∀ t : Text, ink (t.dropWhile p) = ink t
  | [] => rfl
  | c :: t => by
      rw [List.dropWhile_cons, ink_cons]
      split
      · next h => rw [hp c h, if_pos rfl, ink_dropWhile hp t]
      · rw [ink_cons]

theorem ink_reverse (t : Text) : ink t.reverse = (ink t).reverse := List.filter_reverse ..

@[simp] theorem ink_trimStart (t : Text) : ink (trimStart t) = ink t :=
  ink_dropWhile (fun _ h => h) t

@[simp] theorem ink_trimEnd (t : Text) : ink (trimEnd t) = ink t := by
  rw [trimEnd, trimEndBy, ink_reverse, ink_dropWhile (fun _ h => h), ink_reverse,
    List.reverse_reverse]

@[simp] theorem ink_trim (t : Text) : ink (trim t) = ink t := by
  rw [trim, ink_trimEnd, ink_trimStart]

/-- **The ink of parts joined is their ink joined.** -/
theorem ink_join (sep : Text) (parts : List Text) :
    ink (join sep parts) = join (ink sep) (parts.map ink) := filter_join _ sep parts

/-- Joining lines adds no ink. -/
theorem ink_join_newline (lines : List Text) : ink (join ['\n'] lines) = lines.flatMap ink := by
  have hsep : ink ['\n'] = [] := by decide
  rw [ink_join, hsep, join_nil, List.flatMap_def]

/-- Parts that are no longer, one by one, are no longer together. -/
theorem length_flatMap_le {α β γ : Type} {f : α → List β} {g : α → List γ} {l : List α}
    (h : ∀ a ∈ l, (f a).length ≤ (g a).length) : (l.flatMap f).length ≤ (l.flatMap g).length := by
  induction l with
  | nil => exact Nat.le_refl 0
  | cons a l ih =>
    have ih := ih fun b hb => h b (List.mem_cons_of_mem a hb)
    rw [List.flatMap_cons, List.flatMap_cons, List.length_append, List.length_append]
    exact Nat.add_le_add (h a List.mem_cons_self) ih

end Conveyance.Text
