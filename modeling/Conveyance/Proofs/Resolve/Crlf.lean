import Conveyance.Proofs.Markup.Lines
import Conveyance.Proofs.Scan

/-!
# Proofs/Resolve/Crlf — the two spellings of a line end

A template spells its line ends with or without a carriage return.  `Text.crlf` puts one in front of
every newline: **the lines stay the same** (`unixLines_crlf`), unless a carriage return stands in
front of the first newline already, **and so do the tokens**, up to the line ends of their literal
text (`Token.scan_crlf`).
-/

namespace Conveyance

namespace Text

/-- The text with a carriage return in front of every newline. -/
def crlf (t : Text) : Text := replaceChar '\n' ['\r', '\n'] t

theorem crlf_newline (t : Text) : crlf ('\n' :: t) = '\r' :: '\n' :: crlf t := rfl

theorem crlf_cons {c : Char} (hc : c ≠ '\n') (t : Text) : crlf (c :: t) = c :: crlf t := by
  rw [crlf, replaceChar, List.flatMap_cons, if_neg hc]
  rfl

theorem crlf_eq_nil {t : Text} : crlf t = [] ↔ t = [] := by
  rcases t with _ | ⟨c, t⟩
  · simp [crlf, replaceChar]
  · by_cases hc : c = '\n'
    · simp [hc, crlf_newline]
    · simp [crlf_cons hc]

theorem getLast?_crlf (t : Text) : (crlf t).getLast? = t.getLast? := by
  induction t with
  | nil => rfl
  | cons c t ih =>
    have hcons : ∀ d, (d :: crlf t).getLast? = (d :: t).getLast? := fun d => by
      rw [List.getLast?_cons, List.getLast?_cons, ih]
    by_cases hc : c = '\n'
    · rw [hc, crlf_newline, List.getLast?_cons_cons, hcons]
    · rw [crlf_cons hc, hcons]

theorem isEmpty_eq_of_getLast? {t u : Text} (h : u.getLast? = t.getLast?) :
    u.isEmpty = t.isEmpty := by
  rw [Bool.eq_iff_iff, List.isEmpty_iff, List.isEmpty_iff, ← List.getLast?_eq_none_iff, h,
    List.getLast?_eq_none_iff]

/-- **The other line ends are read as newlines.** -/
theorem unixLines_append_crlf (s t : Text) :
    unixLines (s ++ '\r' :: '\n' :: t) = unixLines s ++ '\n' :: unixLines t := by
  rw [unixLines_append (by simp), unixLines]

theorem unixLines_crlf (u : Text) {s t : Text} (ht : '\r' ∉ t)
    (h : ¬ (s.getLast? = some '\r' ∧ t.head? = some '\n')) :
    unixLines (s ++ (crlf t ++ u)) = unixLines (s ++ (t ++ u)) := by
  induction t generalizing s with
  | nil => rfl
  | cons c t ih =>
    have ht' : '\r' ∉ t := List.not_mem_of_not_mem_cons ht
    by_cases hc : c = '\n'
    · have hs : ¬ s.getLast? = some '\r' := fun hs => h ⟨hs, by rw [hc]; rfl⟩
      have ih := ih (s := []) ht' (by simp)
      rw [List.nil_append, List.nil_append] at ih
      rw [hc, crlf_newline, List.cons_append, List.cons_append, unixLines_append_crlf, ih,
        unixLines_append fun h => hs h.1, List.cons_append, unixLines_cons (by decide)]
    · have hlast : ¬ ((s ++ [c]).getLast? = some '\r' ∧ t.head? = some '\n') := fun h => by
        rw [List.getLast?_concat] at h
        exact ht (Option.some.inj h.1 ▸ List.mem_cons_self)
      have ih := ih ht' hlast
      rw [List.append_assoc, List.append_assoc] at ih
      rw [crlf_cons hc]
      exact ih

end Text

theorem formatBlocks_congr {t u : Text} (h : Text.unixLines t = Text.unixLines u) :
    formatBlocks t = formatBlocks u := by
  rw [formatBlocks, h, formatBlocks]

/-! ## Tokens -/

namespace Token

/-- Literal text with the other line ends. -/
def crlf : Token → Token
  | literal t => literal t.crlf
  | token => token

theorem Mark.notMem {token : Token} {w : Text} (h : Mark token w) {c : Char}
    (hc : c = '\r' ∨ c = '\n') : c ∉ w := by
  cases h with
  | tag g => rcases hc with rfl | rfl <;> rcases g with (_ | _ | _) | (_ | _ | _) <;> decide
  | placeholder h =>
    have hname := h.notMem (c := c) (by rcases hc with rfl | rfl <;> decide)
    rcases hc with rfl | rfl <;> simpa [ListingEntry.braced] using hname

theorem crlf_append_of_notMem {w : Text} (h : '\n' ∉ w) (t : Text) :
    Text.crlf (w ++ t) = w ++ t.crlf := by
  induction w with
  | nil => rfl
  | cons c w ih =>
    rw [List.cons_append, Text.crlf_cons (List.ne_of_not_mem_cons h).symm,
      ih (List.not_mem_of_not_mem_cons h), List.cons_append]

theorem exists_eq_append_of_crlf {w rest : Text} (h : '\r' ∉ w) :
    ∀ {t : Text}, t.crlf = w ++ rest → ∃ u, t = w ++ u ∧ rest = u.crlf := by
  induction w with
  | nil => exact fun {t} ht => ⟨t, rfl, ht.symm⟩
  | cons c w ih =>
    intro t ht
    rcases t with _ | ⟨d, t⟩
    · cases ht
    · by_cases hd : d = '\n'
      · rw [hd, Text.crlf_newline] at ht
        exact absurd (List.cons.inj ht).1.symm (List.ne_of_not_mem_cons h).symm
      · rw [Text.crlf_cons hd] at ht
        obtain ⟨rfl, hrest⟩ := List.cons.inj ht
        obtain ⟨u, rfl, hu⟩ := ih (List.not_mem_of_not_mem_cons h) hrest
        exact ⟨u, rfl, hu⟩

theorem Mark.crlf {token : Token} {w : Text} (h : Mark token w) : token.crlf = token := by
  cases h <;> rfl

/-- Marks are read between the other line ends as between newlines. -/
theorem readMark?_crlf (t : Text) :
    readMark? t.crlf = (readMark? t).map fun found => (found.1, found.2.crlf) := by
  rcases hread : readMark? t with _ | ⟨token, rest⟩
  · rcases hcrlf : readMark? t.crlf with _ | ⟨token, rest⟩
    · rfl
    · obtain ⟨w, hmark, ht⟩ := readMark?_eq_some.1 hcrlf
      obtain ⟨u, hu, _⟩ := exists_eq_append_of_crlf (hmark.notMem (.inl rfl)) ht
      rw [readMark?_eq_some.2 ⟨w, hmark, hu⟩] at hread
      cases hread
  · obtain ⟨w, hmark, rfl⟩ := readMark?_eq_some.1 hread
    rw [crlf_append_of_notMem (hmark.notMem (.inr rfl))]
    exact readMark?_eq_some.2 ⟨w, hmark, rfl⟩

theorem map_crlf_consChar {c : Char} (hc : c ≠ '\n') (tokens : List Token) :
    (consChar c tokens).map crlf = consChar c (tokens.map crlf) := by
  have hnil : Text.crlf [] = [] := rfl
  rcases tokens with _ | ⟨_ | _ | _, tokens⟩ <;> simp [consChar, crlf, Text.crlf_cons hc, hnil]

theorem map_crlf_consChar_newline (tokens : List Token) :
    (consChar '\n' tokens).map crlf = consChar '\r' (consChar '\n' (tokens.map crlf)) := by
  rcases tokens with _ | ⟨_ | _ | _, tokens⟩ <;> rfl

/-- **The tokens of a template with the other line ends** are its tokens with theirs. -/
theorem scan_crlf (t : Text) : scan t.crlf = (scan t).map crlf := by
  fun_induction scan t with
  | case1 => rw [Text.crlf_eq_nil.2 rfl, scan_nil, List.map_nil]
  | case2 c t token rest hread _ ih =>
    have hcrlf := readMark?_crlf (c :: t)
    rw [hread] at hcrlf
    obtain ⟨w, hmark, _⟩ := readMark?_eq_some.1 hread
    rw [scan_of_readMark? hcrlf, ih, List.map_cons, hmark.crlf]
  | case3 c t hread ih =>
    have hcrlf := readMark?_crlf (c :: t)
    rw [hread] at hcrlf
    by_cases hc : c = '\n'
    · rw [hc, Text.crlf_newline, scan_cons_of_readMark?_eq_none rfl,
        scan_cons_of_readMark?_eq_none rfl, ih, map_crlf_consChar_newline]
    · rw [Text.crlf_cons hc] at hcrlf ⊢
      rw [scan_cons_of_readMark?_eq_none hcrlf, ih, map_crlf_consChar hc]

theorem mem_flatten_of_literal {tokens : List Token} {factors : List Text}
    (hfactors : List.Forall₂ Factor tokens factors) {t : Text} (h : literal t ∈ tokens) {c : Char}
    (hc : c ∈ t) : c ∈ factors.flatten := by
  induction hfactors with
  | nil => cases h
  | cons hfactor _ ih =>
    rw [List.flatten_cons]
    rcases List.mem_cons.1 h with rfl | h
    · exact List.mem_append_left _ (hfactor.eq_of_literal ▸ hc)
    · exact List.mem_append_right _ (ih h)

/-- Literal text stands in the template. -/
theorem mem_of_literal_mem_scan {t u : Text} (h : literal u ∈ scan t) {c : Char} (hc : c ∈ u) :
    c ∈ t := by
  obtain ⟨factors, hfactors, hflat⟩ := exists_factors_scan t
  exact hflat ▸ mem_flatten_of_literal hfactors h hc

end Token

end Conveyance
