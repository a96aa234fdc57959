import Conveyance.Text.Basic
import Mathlib.Data.List.DropRight

/-!
# Proofs/Text/Parts — text taken apart and put together again

Every function that takes a text apart at a word is characterized by **the text it was applied to**:
a word is stripped exactly where the text starts or ends with it, the first occurrence is found
where it stands, and joining undoes splitting.
-/

namespace Conveyance.Text

/-! ## Taking a word off -/

theorem stripPrefix?_eq_some {w t rest : Text} : stripPrefix? w t = some rest ↔ t = w ++ rest :=
  ⟨eq_append_of_stripPrefix?, fun h => h ▸ stripPrefix?_append w rest⟩

theorem stripSuffix?_eq_some {w t rest : Text} : stripSuffix? w t = some rest ↔ t = rest ++ w := by
  rw [stripSuffix?, Option.map_eq_some_iff]
  constructor
  · rintro ⟨r, hr, rfl⟩
    rw [← List.reverse_reverse t, stripPrefix?_eq_some.1 hr, List.reverse_append,
      List.reverse_reverse]
  · rintro rfl
    exact ⟨rest.reverse, stripPrefix?_eq_some.2 (by simp), List.reverse_reverse rest⟩

/-- **The first occurrence is found** when the word's first character does not stand before it. -/
theorem breakOn?_append {c : Char} (w rest : Text) :
    ∀ {before : Text}, c ∉ before →
      breakOn? (c :: w) (before ++ (c :: w) ++ rest) = some (before, rest)
  | [], _ => by
      rw [List.nil_append, List.cons_append, breakOn?, ← List.cons_append, stripPrefix?_append]
  | d :: before, h => by
      have hd : c ≠ d := fun hcd => h (hcd ▸ List.mem_cons_self)
      have ih := breakOn?_append w rest fun hc => h (List.mem_cons_of_mem d hc)
      rw [List.cons_append, List.cons_append, breakOn?, stripPrefix?, if_neg hd, ih]
      rfl

/-- A word does not occur where its first character does not. -/
theorem breakOn?_of_notMem {c : Char} (w : Text) :
    ∀ {t : Text}, c ∉ t → breakOn? (c :: w) t = none
  | [], _ => rfl
  | d :: t, h => by
      have hd : c ≠ d := List.ne_of_not_mem_cons h
      have ih := breakOn?_of_notMem w (List.not_mem_of_not_mem_cons h)
      rw [breakOn?, stripPrefix?, if_neg hd, ih]
      rfl

/-! ## Ends -/

theorem exists_eq_concat {t : Text} (h : t ≠ []) : ∃ before c, t = before ++ [c] :=
  ⟨t.dropLast, t.getLast h, (List.dropLast_concat_getLast h).symm⟩

theorem trimStart_of_head {c : Char} (h : isBlank c = false) (t : Text) :
    trimStart (c :: t) = c :: t := by
  rw [trimStart, List.dropWhile_cons, if_neg (by simp [h])]

theorem trimEnd_concat {c : Char} (h : isBlank c = false) (t : Text) :
    trimEnd (t ++ [c]) = t ++ [c] := by
  have hstart := trimStart_of_head h t.reverse
  rw [trimStart] at hstart
  rw [trimEnd, trimEndBy, List.reverse_append, List.reverse_singleton, List.singleton_append,
    hstart, List.reverse_cons, List.reverse_reverse]

/-- A text between two characters that are not blank is not trimmed. -/
theorem trim_cons_concat {c d : Char} (hc : isBlank c = false) (hd : isBlank d = false) (t : Text) :
    trim (c :: (t ++ [d])) = c :: (t ++ [d]) := by
  rw [trim, trimStart_of_head hc, ← List.cons_append, trimEnd_concat hd]

theorem trimEnd_concat_blank {c : Char} (h : isBlank c = true) (t : Text) :
    trimEnd (t ++ [c]) = trimEnd t := by
  rw [trimEnd, trimEndBy, List.reverse_append, List.reverse_singleton, List.singleton_append,
    List.dropWhile_cons, if_pos h]
  rfl

theorem trimStart_of_blank {c : Char} (h : isBlank c = true) (t : Text) :
    trimStart (c :: t) = trimStart t := by
  rw [trimStart, List.dropWhile_cons, if_pos h]
  rfl

theorem trim_concat_blank {c : Char} (h : isBlank c = true) :
    ∀ t : Text, trim (t ++ [c]) = trim t
  | [] => by
      rw [trim, List.nil_append, trimStart_of_blank h]
      rfl
  | d :: t => by
      cases hd : isBlank d with
      | true =>
        have ih := trim_concat_blank h t
        rw [trim] at ih ⊢
        rw [List.cons_append, trimStart_of_blank hd, ih, trim, trim, trimStart_of_blank hd]
      | false =>
        rw [trim, List.cons_append, trimStart_of_head hd, ← List.cons_append,
          trimEnd_concat_blank h, trim, trimStart_of_head hd]

/-- What is left after trimming does not start with a character that is trimmed off. -/
theorem of_trimBy_eq_cons {p : Char → Bool} {t rest : Text} {c : Char}
    (h : trimBy p t = c :: rest) : p c = false := by
  have hprefix : trimBy p t <+: t.dropWhile p := List.rdropWhile_prefix p (t.dropWhile p)
  obtain ⟨more, hmore⟩ := hprefix
  have hhead := List.head?_dropWhile_not p t
  rw [← hmore, h] at hhead
  simpa using hhead

/-- **What is trimmed once is trimmed.** -/
theorem trimBy_trimBy (p : Char → Bool) (t : Text) : trimBy p (trimBy p t) = trimBy p t := by
  have hend : trimEndBy p (trimBy p t) = trimBy p t := List.rdropWhile_idempotent p (t.dropWhile p)
  have hstart : (trimBy p t).dropWhile p = trimBy p t := by
    cases htrim : trimBy p t with
    | nil => rfl
    | cons c rest => rw [List.dropWhile_cons, if_neg (by simp [of_trimBy_eq_cons htrim])]
  rw [trimBy, hstart, hend]

theorem trim_trim (t : Text) : trim (trim t) = trim t := trimBy_trimBy isBlank t

/-- A space on either side is trimmed off. -/
theorem trim_spaces (t : Text) : trim (' ' :: (t ++ [' '])) = trim t := by
  rw [trim, trimStart_of_blank (by decide), ← trim, trim_concat_blank (by decide)]

/-! ## Joining -/

@[simp] theorem join_singleton (sep part : Text) : join sep [part] = part := by simp [join]

theorem join_cons_cons (sep part next : Text) (parts : List Text) :
    join sep (part :: next :: parts) = part ++ sep ++ join sep (next :: parts) :=
  List.intercalate_cons_cons

theorem join_concat (sep part : Text) : ∀ {parts : List Text}, parts ≠ [] →
    join sep (parts ++ [part]) = join sep parts ++ sep ++ part
  | [first], _ => by simp [join_cons_cons]
  | first :: next :: parts, _ => by
      rw [List.cons_append, List.cons_append, join_cons_cons, join_cons_cons, ← List.cons_append,
        join_concat sep part (List.cons_ne_nil next parts)]
      simp only [List.append_assoc]

/-- Parts that are joined by nothing stand side by side. -/
theorem join_nil : ∀ parts : List Text, join [] parts = parts.flatten
  | [] => rfl
  | [part] => by simp
  | part :: next :: parts => by
      rw [join_cons_cons, join_nil (next :: parts), List.append_nil, List.flatten_cons,
        List.flatten_cons, List.flatten_cons]

/-- **Looking at some characters only goes through joining.** -/
theorem filter_join (p : Char → Bool) (sep : Text) : ∀ parts : List Text,
    (join sep parts).filter p = join (sep.filter p) (parts.map (List.filter p))
  | [] => rfl
  | [part] => by simp
  | part :: next :: parts => by
      rw [join_cons_cons, List.filter_append, List.filter_append, filter_join p sep (next :: parts),
        List.map_cons, List.map_cons, List.map_cons, join_cons_cons]

theorem mem_join {c : Char} {sep : Text} : ∀ {parts : List Text}, c ∈ join sep parts →
    c ∈ sep ∨ ∃ part ∈ parts, c ∈ part
  | [part], h => .inr ⟨part, List.mem_singleton_self part, by simpa using h⟩
  | part :: next :: parts, h => by
      rw [join_cons_cons, List.mem_append, List.mem_append] at h
      rcases h with (h | h) | h
      · exact .inr ⟨part, List.mem_cons_self, h⟩
      · exact .inl h
      · rcases mem_join h with h | ⟨p, hp, hc⟩
        · exact .inl h
        · exact .inr ⟨p, List.mem_cons_of_mem part hp, hc⟩

/-! ## Words inside a text -/

/-- **A word lies on one side of a character that it does not hold.** -/
theorem infix_append_cons {w s t : Text} {c : Char} (hc : c ∉ w) (h : w <:+: s ++ c :: t) :
    w <:+: s ∨ w <:+: t := by
  obtain ⟨before, after, heq⟩ := h
  rcases List.append_eq_append_iff.1 heq with ⟨x, hs, _⟩ | ⟨x, hw, ht⟩
  · exact .inl ⟨before, x, hs.symm⟩
  · rcases x with _ | ⟨d, x⟩
    · exact .inl ⟨before, [], by simpa using hw⟩
    · obtain ⟨rfl, rfl⟩ := List.cons.inj ht
      rcases List.append_eq_append_iff.1 hw with ⟨y, _, hy⟩ | ⟨y, _, hy⟩
      · exact absurd (hy ▸ by simp) hc
      · rcases y with _ | ⟨e, y⟩
        · have hmem : c ∈ [] ++ w := hy ▸ List.mem_cons_self
          exact absurd hmem hc
        · obtain ⟨rfl, rfl⟩ := List.cons.inj hy
          exact .inr ⟨y, after, rfl⟩

/-- A word lies on one side of a separator that it shares no character with. -/
theorem infix_append_append {w sep s t : Text} (hw : w ≠ []) (hsep : sep ≠ [])
    (hdisjoint : ∀ c ∈ sep, c ∉ w) (h : w <:+: s ++ (sep ++ t)) : w <:+: s ∨ w <:+: t := by
  induction sep generalizing s with
  | nil => exact absurd rfl hsep
  | cons c sep ih =>
    rcases infix_append_cons (hdisjoint c List.mem_cons_self) h with h | h
    · exact .inl h
    · rcases sep with _ | ⟨d, sep⟩
      · exact .inr h
      · have ih := ih (s := []) (List.cons_ne_nil d sep)
          (fun e he => hdisjoint e (List.mem_cons_of_mem c he)) h
        exact ih.imp_left fun h => absurd (List.eq_nil_of_infix_nil h) hw

/-- A word of a text that was joined lies in one of the parts. -/
theorem infix_join {w sep : Text} (hw : w ≠ []) (hsep : sep ≠ []) (hdisjoint : ∀ c ∈ sep, c ∉ w) :
    ∀ {parts : List Text}, w <:+: join sep parts → ∃ part ∈ parts, w <:+: part
  | [], h => absurd (List.eq_nil_of_infix_nil h) hw
  | [part], h => ⟨part, List.mem_singleton_self part, by simpa using h⟩
  | part :: next :: parts, h => by
      rw [join_cons_cons, List.append_assoc] at h
      rcases infix_append_append hw hsep hdisjoint h with h | h
      · exact ⟨part, List.mem_cons_self, h⟩
      · obtain ⟨p, hp, h⟩ := infix_join hw hsep hdisjoint h
        exact ⟨p, List.mem_cons_of_mem part hp, h⟩

theorem infix_join_of_mem {w part : Text} {sep : Text} (h : w <:+: part) :
    ∀ {parts : List Text}, part ∈ parts → w <:+: join sep parts
  | [p], hp => by
      rw [join_singleton, ← List.mem_singleton.1 hp]
      exact h
  | p :: next :: parts, hp => by
      rw [join_cons_cons]
      rcases List.mem_cons.1 hp with rfl | hp
      · exact h.trans ⟨[], sep ++ join sep (next :: parts), by simp⟩
      · have ih : w <:+: join sep (next :: parts) := infix_join_of_mem h hp
        exact ih.trans ⟨p ++ sep, [], by simp⟩

/-! ## Splitting -/

theorem splitOn_cons_self (sep : Char) (t : Text) :
    splitOn sep (sep :: t) = [] :: splitOn sep t := by
  rw [splitOn, if_pos rfl]

/-- Separators alone have nothing between them. -/
theorem splitOn_replicate (sep : Char) :
    ∀ n : Nat, splitOn sep (List.replicate n sep) = List.replicate (n + 1) []
  | 0 => rfl
  | n + 1 => by
      rw [List.replicate_succ, splitOn_cons_self, splitOn_replicate sep n, ← List.replicate_succ]

theorem splitOn_ne_nil (sep : Char) (t : Text) : splitOn sep t ≠ [] := by
  cases t with
  | nil => simp [splitOn]
  | cons c t =>
    rw [splitOn]
    split
    · simp
    · split <;> simp

theorem splitOn_cons_of_ne {sep c : Char} {t part : Text} {parts : List Text} (hc : c ≠ sep)
    (h : splitOn sep t = part :: parts) : splitOn sep (c :: t) = (c :: part) :: parts := by
  rw [splitOn, if_neg hc, h]

/-- **A separator splits the text**, whatever stands around it. -/
theorem splitOn_append_cons (sep : Char) (t : Text) :
    ∀ s : Text, splitOn sep (s ++ sep :: t) = splitOn sep s ++ splitOn sep t
  | [] => splitOn_cons_self sep t
  | c :: s => by
      have ih := splitOn_append_cons sep t s
      obtain ⟨part, parts, hparts⟩ := List.exists_cons_of_ne_nil (splitOn_ne_nil sep s)
      rw [List.cons_append]
      by_cases hc : c = sep
      · rw [hc, splitOn_cons_self, ih, splitOn_cons_self, List.cons_append]
      · rw [hparts] at ih
        rw [splitOn_cons_of_ne hc ih, splitOn_cons_of_ne hc hparts]
        rfl

theorem splitOn_of_notMem {sep : Char} : ∀ {t : Text}, sep ∉ t → splitOn sep t = [t]
  | [], _ => rfl
  | _ :: _, h => splitOn_cons_of_ne (List.ne_of_not_mem_cons h).symm
      (splitOn_of_notMem (List.not_mem_of_not_mem_cons h))

/-- A part is cut out of the text and holds no separator. -/
theorem mem_of_mem_splitOn {sep : Char} {part : Text} :
    ∀ {t : Text}, part ∈ splitOn sep t → ∀ c ∈ part, c ∈ t ∧ c ≠ sep
  | [], h, c, hc => by
      rw [List.mem_singleton.1 h] at hc
      cases hc
  | d :: t, h, c, hc => by
      obtain ⟨first, parts, hparts⟩ := List.exists_cons_of_ne_nil (splitOn_ne_nil sep t)
      have ih : ∀ p ∈ first :: parts, ∀ c ∈ p, c ∈ t ∧ c ≠ sep := fun p hp =>
        mem_of_mem_splitOn (hparts ▸ hp)
      by_cases hd : d = sep
      · rw [hd, splitOn_cons_self, hparts] at h
        rcases List.mem_cons.1 h with rfl | h
        · cases hc
        · exact ⟨List.mem_cons_of_mem d (ih part h c hc).1, (ih part h c hc).2⟩
      · rw [splitOn_cons_of_ne hd hparts] at h
        rcases List.mem_cons.1 h with rfl | h
        · rcases List.mem_cons.1 hc with rfl | hc
          · exact ⟨List.mem_cons_self, hd⟩
          · have := ih first List.mem_cons_self c hc
            exact ⟨List.mem_cons_of_mem d this.1, this.2⟩
        · have := ih part (List.mem_cons_of_mem first h) c hc
          exact ⟨List.mem_cons_of_mem d this.1, this.2⟩

/-- **Joining undoes splitting.** -/
theorem join_splitOn (sep : Char) : ∀ t : Text, join [sep] (splitOn sep t) = t
  | [] => rfl
  | c :: t => by
      have ih := join_splitOn sep t
      obtain ⟨part, parts, hparts⟩ := List.exists_cons_of_ne_nil (splitOn_ne_nil sep t)
      by_cases hc : c = sep
      · rw [hc, splitOn_cons_self, hparts, join_cons_cons, ← hparts, ih]
        rfl
      · rw [splitOn_cons_of_ne hc hparts, ← ih, hparts]
        cases parts with
        | nil => rw [join_singleton, join_singleton]
        | cons next parts => rw [join_cons_cons, join_cons_cons, List.cons_append, List.cons_append]

/-- **Splitting undoes joining** of parts that hold no separator. -/
theorem splitOn_join {sep : Char} : ∀ {parts : List Text}, parts ≠ [] →
    (∀ part ∈ parts, sep ∉ part) → splitOn sep (join [sep] parts) = parts
  | [part], _, h => by
      rw [join_singleton, splitOn_of_notMem (h part (List.mem_singleton_self part))]
  | part :: next :: parts, _, h => by
      have ih := splitOn_join (List.cons_ne_nil next parts) fun p hp =>
        h p (List.mem_cons_of_mem part hp)
      rw [join_cons_cons, List.append_assoc, List.singleton_append, splitOn_append_cons, ih,
        splitOn_of_notMem (h part List.mem_cons_self), List.singleton_append]

/-! ## Parted texts -/

/-- **The separator parts the text**: it stands neither at an end nor beside another one. -/
structure PartedBy (sep : Char) (t : Text) : Prop where
  head : t.head? ≠ some sep
  last : t.getLast? ≠ some sep
  apart : ¬ [sep, sep] <:+: t

/-- **A separator parts a text** when there is something between any two, and before and behind. -/
theorem partedBy_of_splitOn {sep : Char} {t : Text} (h : [] ∉ splitOn sep t) : PartedBy sep t where
  head hhead := by
    obtain ⟨t, rfl⟩ := List.head?_eq_some_iff.1 hhead
    rw [splitOn_cons_self] at h
    exact h List.mem_cons_self
  last hlast := by
    obtain ⟨t, rfl⟩ := List.getLast?_eq_some_iff.1 hlast
    rw [splitOn_append_cons] at h
    exact h (List.mem_append_right _ (List.mem_singleton_self _))
  apart := by
    rintro ⟨s, u, rfl⟩
    rw [List.append_assoc, List.cons_append, List.singleton_append, splitOn_append_cons,
      splitOn_cons_self] at h
    exact h (List.mem_append_right _ List.mem_cons_self)

theorem partedBy_of_notMem {sep : Char} {t : Text} (h : sep ∉ t) : PartedBy sep t where
  head hhead := h (List.mem_of_head? hhead)
  last hlast := h (List.mem_of_getLast? hlast)
  apart hin := h (hin.subset List.mem_cons_self)

end Conveyance.Text
