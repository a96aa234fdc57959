import Conveyance.Catalog.Listing
import Conveyance.Proofs.Catalog.Grammar
import Conveyance.Proofs.Markup.Reading
import Conveyance.Token
import Mathlib.Data.List.Forall2

/-!
# Proofs/Scan — a template is what its tokens are written as

A mark is a tag or a name of the grammar between double braces.  **Marks do not swallow each
other**: two that overlap are tags that share a tilde (`Mark.overlap`).  So the scanner takes a
placeholder wherever one is written (`scan_append_placeholder`), and a tag unless its first tilde
has ended the tag before (`scan_append_mark`); what is left over is literal text, and nothing is
lost (`exists_factors_scan`).
-/

namespace Conveyance

open ListingEntry (braced)

namespace Token

/-- A text that a placeholder or a tag is written as. -/
inductive Mark : Token → Text → Prop
  | tag (g : Tag) : Mark (.tag g) g.text
  | placeholder {name : Text} {p : Placeholder} (h : Placeholder.Denotes name p) :
      Mark (.placeholder p) (braced name)

/-- **A text that a token is written as**: literal text is written as itself and is not empty. -/
inductive Factor : Token → Text → Prop
  | literal {t : Text} (h : t ≠ []) : Factor (.literal t) t
  | mark {token : Token} {w : Text} (h : Mark token w) : Factor token w

/-- The token is literal text. -/
def isLiteral : Token → Bool
  | literal _ => true
  | _ => false

/-! ## Marks -/

theorem Mark.not_isLiteral {token : Token} {w : Text} (h : Mark token w) :
    token.isLiteral = false := by
  cases h <;> rfl

/-- A tag is a word between two tildes. -/
theorem exists_word_of_tag (g : Tag) :
    ∃ word, g.text = '~' :: (word ++ ['~']) ∧ '~' ∉ word ∧ '{' ∉ word := by
  cases g with
  | opening a => exact ⟨a.name, rfl, by cases a <;> decide⟩
  | closing a => exact ⟨'/' :: a.name, rfl, by cases a <;> decide⟩

theorem Mark.eq_text {g : Tag} {w : Text} (h : Mark (.tag g) w) : w = g.text := by
  cases h
  rfl

theorem read?_braced {name : Text} {p : Placeholder} (h : Placeholder.Denotes name p)
    (rest : Text) : Placeholder.read? (braced name ++ rest) = some (p, rest) := by
  have hbreak := Text.breakOn?_append ['}'] rest (h.notMem (c := '}') (by decide))
  have hbody : Text.stripPrefix? ['{', '{'] (braced name ++ rest)
      = some (name ++ ['}', '}'] ++ rest) := Text.stripPrefix?_eq_some.2 (by simp [braced])
  simp only [Placeholder.read?, hbody, hbreak, Placeholder.ofName?_eq_some_iff.2 h,
    Option.bind_eq_bind, Option.bind_some, Option.pure_def]

/-- **The marks that start a text are the ones that are read.** -/
theorem readMark?_eq_some {t rest : Text} {token : Token} :
    readMark? t = some (token, rest) ↔ ∃ w, Mark token w ∧ t = w ++ rest := by
  constructor
  · intro h
    unfold readMark? at h
    split at h
    · obtain ⟨⟨p, rest'⟩, hread, heq⟩ := Option.map_eq_some_iff.1 h
      cases heq
      obtain ⟨name, ht, hname⟩ := Placeholder.exists_name_of_read? hread
      exact ⟨_, .placeholder (Placeholder.ofName?_eq_some_iff.1 hname), ht⟩
    · obtain ⟨⟨g, rest'⟩, hread, heq⟩ := Option.map_eq_some_iff.1 h
      cases heq
      exact ⟨_, .tag g, Tag.eq_append_of_read? hread⟩
    · cases h
  · rintro ⟨w, hmark, rfl⟩
    cases hmark with
    | tag g =>
      obtain ⟨word, hword, _⟩ := exists_word_of_tag g
      have hread := g.read?_append rest
      rw [hword, List.cons_append] at hread ⊢
      simp only [readMark?, hread, Option.map_some]
    | placeholder h =>
      have hread := read?_braced h rest
      rw [braced, List.append_assoc, List.append_assoc, List.cons_append] at hread ⊢
      simp only [readMark?, hread, Option.map_some]

/-- A mark that is read is read before any other text. -/
theorem readMark?_append {t rest : Text} {token : Token} (h : readMark? t = some (token, rest))
    (u : Text) : readMark? (t ++ u) = some (token, rest ++ u) := by
  obtain ⟨w, hmark, rfl⟩ := readMark?_eq_some.1 h
  exact readMark?_eq_some.2 ⟨w, hmark, List.append_assoc ..⟩

theorem notMem_braced {name : Text} {p : Placeholder} (h : Placeholder.Denotes name p) :
    '~' ∉ braced name := by
  have hname := h.notMem (c := '~') (by decide)
  simpa [braced] using hname

/-- The second tilde of a tag ends it. -/
theorem eq_nil_of_tag_text {g : Tag} {a b : Text} (ha : a ≠ []) (h : g.text = a ++ '~' :: b) :
    b = [] := by
  obtain ⟨word, hword, htilde, _⟩ := exists_word_of_tag g
  obtain ⟨x, a, rfl⟩ := List.exists_cons_of_ne_nil ha
  rw [hword] at h
  rcases List.append_eq_append_iff.1 (List.cons.inj h).2 with ⟨c, hc, hb⟩ | ⟨c, rfl, hb⟩
  · have hlength := congrArg List.length hb
    simp only [List.length_append, List.length_cons, List.length_nil] at hlength
    exact List.length_eq_zero_iff.1 (by omega)
  · rcases c with _ | ⟨z, c⟩
    · exact (List.cons.inj hb).2
    · obtain rfl : '~' = z := (List.cons.inj hb).1
      exact absurd (List.mem_append_right _ List.mem_cons_self) htilde

theorem brace_notMem_tag (g : Tag) : '{' ∉ g.text := by
  obtain ⟨word, hword, _, hbrace⟩ := exists_word_of_tag g
  rw [hword]
  simpa using hbrace

/-- An opening brace inside a placeholder is the second one. -/
theorem eq_of_braced_eq {name a b : Text} (hname : '{' ∉ name) (ha : a ≠ [])
    (h : braced name = a ++ '{' :: b) : b = name ++ ['}', '}'] := by
  obtain ⟨x, a, rfl⟩ := List.exists_cons_of_ne_nil ha
  have hrest : '{' :: (name ++ ['}', '}']) = a ++ '{' :: b := (List.cons.inj h).2
  rcases a with _ | ⟨z, a⟩
  · exact (List.cons.inj hrest).2.symm
  · have hmem : '{' ∈ name ++ ['}', '}'] := (List.cons.inj hrest).2 ▸ by simp
    simp [hname] at hmem

/-- **Marks that overlap are tags that share a tilde.** -/
theorem Mark.overlap {token token' : Token} {a b w rest post : Text} (h' : Mark token' (a ++ b))
    (h : Mark token w) (ha : a ≠ []) (hb : b ≠ []) (heq : b ++ rest = w ++ post) :
    ∃ g g', token = .tag g ∧ token' = .tag g' ∧ b = ['~'] := by
  obtain ⟨y, b, rfl⟩ := List.exists_cons_of_ne_nil hb
  generalize hw' : a ++ y :: b = w' at h'
  cases h with
  | tag g =>
    obtain ⟨word, hword, _⟩ := exists_word_of_tag g
    obtain rfl : y = '~' := (List.cons.inj (hword ▸ heq)).1
    cases h' with
    | tag g' => exact ⟨g, g', rfl, rfl, by rw [eq_nil_of_tag_text ha hw'.symm]⟩
    | placeholder hname => exact absurd (hw' ▸ by simp) (notMem_braced hname)
  | placeholder hname =>
    obtain rfl : y = '{' := (List.cons.inj heq).1
    cases h' with
    | tag g' => exact absurd (hw' ▸ by simp) (brace_notMem_tag g')
    | @placeholder name' p' hname' =>
      -- The second brace of the one would be the first of the other.
      have hbrace : '{' ∉ name' := hname'.notMem (by decide)
      have hsecond := (List.cons.inj heq).2
      rw [eq_of_braced_eq hbrace ha hw'.symm] at hsecond
      rcases name' with _ | ⟨d, name'⟩
      · simp at hsecond
      · obtain rfl : d = '{' := (List.cons.inj hsecond).1
        exact absurd List.mem_cons_self hbrace

/-! ## Scanning by marks -/

@[simp] theorem scan_nil : scan [] = [] := by rw [scan]

theorem scan_of_readMark? {t rest : Text} {token : Token} (h : readMark? t = some (token, rest)) :
    scan t = token :: scan rest := by
  cases t with
  | nil => cases h
  | cons c t =>
    rw [scan]
    split
    · next h' => rw [h] at h'; cases h'; rfl
    · next h' => rw [h] at h'; cases h'

theorem scan_of_mark {token : Token} {w : Text} (h : Mark token w) (rest : Text) :
    scan (w ++ rest) = token :: scan rest :=
  scan_of_readMark? (readMark?_eq_some.2 ⟨w, h, rfl⟩)

theorem scan_cons_of_readMark?_eq_none {c : Char} {t : Text} (h : readMark? (c :: t) = none) :
    scan (c :: t) = consChar c (scan t) := by
  rw [scan]
  split
  · next h' => rw [h] at h'; cases h'
  · rfl

/-- A literal character joins the literal text behind it and no further token. -/
theorem consChar_append {token : Token} (h : token.isLiteral = false) (c : Char)
    (before after : List Token) :
    consChar c (before ++ token :: after) = consChar c before ++ token :: after := by
  cases before with
  | nil =>
    cases token with
    | literal t => cases h
    | placeholder p => rfl
    | tag g => rfl
  | cons first before => cases first <;> rfl

/-- **A mark that starts before another one and reaches into it** is a tag, and so is the other. -/
theorem exists_tags_of_readMark? {token token' : Token} {pre w post rest : Text} (h : Mark token w)
    (hpre : pre ≠ []) (hnone : readMark? pre = none)
    (hread : readMark? (pre ++ (w ++ post)) = some (token', rest)) :
    ∃ g g', token = .tag g ∧ token' = .tag g' ∧ pre ++ ['~'] = g'.text
      ∧ rest = g.text.tail ++ post := by
  obtain ⟨w', hmark, hw'⟩ := readMark?_eq_some.1 hread
  have hne : ∀ u, pre ≠ w' ++ u := fun u hu =>
    Option.some_ne_none _ ((readMark?_eq_some.2 ⟨w', hmark, hu⟩).symm.trans hnone)
  rcases List.append_eq_append_iff.1 hw' with ⟨b, rfl, hrest⟩ | ⟨b, hb, _⟩
  · have hb : b ≠ [] := fun hb => hne [] (by simp [hb])
    obtain ⟨g, g', rfl, rfl, rfl⟩ := hmark.overlap h hpre hb hrest.symm
    obtain ⟨word, hword, _⟩ := exists_word_of_tag g
    refine ⟨g, g', rfl, rfl, hmark.eq_text, ?_⟩
    rw [h.eq_text, hword] at hrest
    rw [hword]
    exact (List.cons.inj hrest).2.symm
  · exact absurd hb (hne b)

theorem readMark?_eq_none_of_append {t u : Text} (h : readMark? (t ++ u) = none) :
    readMark? t = none := by
  rcases hread : readMark? t with _ | ⟨token, rest⟩
  · rfl
  · rw [readMark?_append hread u] at h
    cases h

/-- **A mark becomes a token of its own**, and the texts before and behind it are scanned as if they
stood alone; only a tag whose first tilde ends the tag before it does not. -/
theorem scan_append_mark {token : Token} {w : Text} (h : Mark token w) (post : Text) :
    ∀ pre : Text, scan (pre ++ (w ++ post)) = scan pre ++ token :: scan post ∨
      ∃ g g' pre', token = .tag g ∧ pre ++ ['~'] = pre' ++ g'.text ∧
        scan (pre ++ (w ++ post)) = scan pre' ++ .tag g' :: scan (g.text.tail ++ post) := by
  intro pre
  fun_induction scan pre with
  | case1 => exact .inl (scan_of_mark h post)
  | case2 c t token' rest hread _ ih =>
    obtain ⟨w', hmark, hpre⟩ := readMark?_eq_some.1 hread
    have hscan := scan_of_readMark? (readMark?_append hread (w ++ post))
    rcases ih with ih | ⟨g, g', pre', htoken, hpre', ih⟩
    · exact .inl (by rw [hscan, ih, List.cons_append])
    · refine .inr ⟨g, g', w' ++ pre', htoken, ?_, ?_⟩
      · rw [hpre, List.append_assoc, hpre', List.append_assoc]
      · rw [hscan, ih, scan_of_mark hmark, List.cons_append]
  | case3 c t hread ih =>
    rcases hfull : readMark? (c :: t ++ (w ++ post)) with _ | ⟨token', rest⟩
    · -- no mark starts here: the text in front grows by one literal character
      rw [List.cons_append] at hfull ⊢
      rw [scan_cons_of_readMark?_eq_none hfull]
      rcases ih with ih | ⟨g, g', pre', htoken, hpre', ih⟩
      · exact .inl (by rw [ih, consChar_append h.not_isLiteral])
      · obtain ⟨word, hword, _⟩ := exists_word_of_tag g'
        have ht : t = pre' ++ '~' :: word := by
          rw [hword, ← List.cons_append, ← List.append_assoc] at hpre'
          exact List.append_cancel_right hpre'
        rw [ht, ← List.cons_append] at hread
        have hnone := readMark?_eq_none_of_append hread
        refine .inr ⟨g, g', c :: pre', htoken, ?_, ?_⟩
        · rw [List.cons_append, hpre', List.cons_append]
        · rw [ih, consChar_append rfl, scan_cons_of_readMark?_eq_none hnone]
    · -- a mark starts here only when the text goes on, so it reaches into the one that is meant
      obtain ⟨g, g', htoken, rfl, hpre, rfl⟩ :=
        exists_tags_of_readMark? h (List.cons_ne_nil c t) hread hfull
      exact .inr ⟨g, g', [], htoken, hpre, by rw [scan_of_readMark? hfull, scan_nil]; rfl⟩

/-- **A placeholder is found wherever it is written.** -/
theorem scan_append_placeholder {name : Text} {p : Placeholder} (h : Placeholder.Denotes name p)
    (pre post : Text) :
    scan (pre ++ braced name ++ post) = scan pre ++ .placeholder p :: scan post := by
  rw [List.append_assoc]
  rcases scan_append_mark (.placeholder h) post pre with hscan | ⟨g, _, _, htoken, _⟩
  · exact hscan
  · cases htoken

/-! ## Nothing is lost -/

theorem Factor.eq_of_literal {t w : Text} (h : Factor (.literal t) w) : w = t := by
  cases h with
  | literal _ => rfl
  | mark h => cases h

theorem factors_consChar {c : Char} {tokens : List Token} {factors : List Text}
    (h : List.Forall₂ Factor tokens factors) :
    ∃ factors', List.Forall₂ Factor (consChar c tokens) factors'
      ∧ factors'.flatten = c :: factors.flatten := by
  have hnew : List.Forall₂ Factor (.literal [c] :: tokens) ([c] :: factors) :=
    .cons (.literal (List.cons_ne_nil c [])) h
  cases h with
  | nil => exact ⟨_, hnew, rfl⟩
  | @cons token factor tokens factors hfactor hrest =>
    cases token with
    | literal t =>
      have ht := hfactor.eq_of_literal
      exact ⟨(c :: t) :: factors, .cons (.literal (List.cons_ne_nil c t)) hrest, by simp [ht]⟩
    | placeholder p => exact ⟨_, hnew, rfl⟩
    | tag g => exact ⟨_, hnew, rfl⟩

/-- **The tokens of a template are written one after another in it.** -/
theorem exists_factors_scan (t : Text) :
    ∃ factors, List.Forall₂ Factor (scan t) factors ∧ factors.flatten = t := by
  fun_induction scan t with
  | case1 => exact ⟨[], .nil, rfl⟩
  | case2 c t token rest hread _ ih =>
    obtain ⟨w, hmark, ht⟩ := readMark?_eq_some.1 hread
    obtain ⟨factors, hfactors, hflat⟩ := ih
    exact ⟨w :: factors, .cons (.mark hmark) hfactors, by rw [List.flatten_cons, hflat, ht]⟩
  | case3 c t _ ih =>
    obtain ⟨factors, hfactors, hflat⟩ := ih
    obtain ⟨factors', hfactors', hflat'⟩ := factors_consChar (c := c) hfactors
    exact ⟨factors', hfactors', by rw [hflat', hflat]⟩

/-- A name ends where the first brace stands. -/
theorem braced_append_inj {name name' rest rest' : Text} (h : '}' ∉ name) (h' : '}' ∉ name')
    (heq : braced name ++ rest = braced name' ++ rest') : name = name' := by
  have hbody : name ++ ['}', '}'] ++ rest = name' ++ ['}', '}'] ++ rest' :=
    (List.cons.inj (List.cons.inj heq).2).2
  have hbreak := Text.breakOn?_append ['}'] rest h
  rw [hbody, Text.breakOn?_append ['}'] rest' h'] at hbreak
  exact (Prod.mk.inj (Option.some.inj hbreak)).1.symm

/-- **A token is written in one way** at the start of a text. -/
theorem Factor.append_inj {token : Token} {w w' rest rest' : Text} (h : Factor token w)
    (h' : Factor token w') (heq : w ++ rest = w' ++ rest') : w = w' ∧ rest = rest' := by
  have hsame : w = w' := by
    cases h with
    | literal _ => exact h'.eq_of_literal.symm
    | mark h =>
      cases h' with
      | literal _ => cases h
      | mark h' =>
        cases h with
        | tag g => exact h'.eq_text.symm
        | placeholder hname =>
          cases h' with
          | placeholder hname' =>
            rw [braced_append_inj (hname.notMem (by decide)) (hname'.notMem (by decide)) heq]
  exact ⟨hsame, List.append_cancel_left (hsame ▸ heq)⟩

theorem factors_unique : ∀ {tokens : List Token} {factors factors' : List Text},
    List.Forall₂ Factor tokens factors → List.Forall₂ Factor tokens factors' →
      factors.flatten = factors'.flatten → factors = factors'
  | _, _, _, .nil, .nil, _ => rfl
  | _, _, _, .cons h hs, .cons h' hs', heq => by
      obtain ⟨rfl, hrest⟩ := h.append_inj h' heq
      rw [factors_unique hs hs' hrest]

/-- The tokens are not both literal text. -/
def Apart (a b : Token) : Prop := ¬ (a.isLiteral = true ∧ b.isLiteral = true)

theorem isChain_consChar {c : Char} {tokens : List Token} (h : tokens.IsChain Apart) :
    (consChar c tokens).IsChain Apart := by
  cases tokens with
  | nil => exact .singleton _
  | cons first tokens =>
    cases first with
    | literal t =>
      cases tokens with
      | nil => exact .singleton _
      | cons second tokens =>
        obtain ⟨hfirst, hrest⟩ := List.isChain_cons_cons.1 h
        exact List.isChain_cons_cons.2 ⟨hfirst, hrest⟩
    | placeholder p => exact List.isChain_cons_cons.2 ⟨by simp [Apart, isLiteral], h⟩
    | tag g => exact List.isChain_cons_cons.2 ⟨by simp [Apart, isLiteral], h⟩

/-- **No two literal tokens stand side by side.** -/
theorem isChain_scan (t : Text) : (scan t).IsChain Apart := by
  fun_induction scan t with
  | case1 => exact .nil
  | case2 c t token rest hread _ ih =>
    obtain ⟨w, hmark, _⟩ := readMark?_eq_some.1 hread
    cases htokens : scan rest with
    | nil => exact .singleton _
    | cons second tokens =>
      rw [htokens] at ih
      exact List.isChain_cons_cons.2 ⟨by simp [Apart, hmark.not_isLiteral], ih⟩
  | case3 c t _ ih => exact isChain_consChar ih

/-! ## The scanner and the grammar -/

/-- **Scanning is lossless and recognizes exactly the grammar.**  A template is, in one way only,
its tokens written one after another, literal text never beside literal text; a placeholder is a
token wherever a name of the grammar stands between double braces, whatever surrounds it; and a tag
is one unless its first tilde ends the tag before it. -/
theorem scan_reads_grammar (t : Text) :
    (∃! factors : List Text, List.Forall₂ Factor (scan t) factors ∧ factors.flatten = t) ∧
      (scan t).IsChain Apart ∧
      (∀ pre name p post, t = pre ++ braced name ++ post → Placeholder.Denotes name p →
        scan t = scan pre ++ .placeholder p :: scan post) ∧
      ∀ pre g post, t = pre ++ g.text ++ post →
        scan t = scan pre ++ .tag g :: scan post ∨
          ∃ pre' g', pre ++ ['~'] = pre' ++ g'.text ∧
            scan t = scan pre' ++ .tag g' :: scan (g.text.tail ++ post) := by
  refine ⟨?_, isChain_scan t, ?_, ?_⟩
  · obtain ⟨factors, hfactors, hflat⟩ := exists_factors_scan t
    refine ⟨factors, ⟨hfactors, hflat⟩, fun factors' h' => ?_⟩
    exact factors_unique h'.1 hfactors (h'.2.trans hflat.symm)
  · rintro pre name p post rfl hname
    exact scan_append_placeholder hname pre post
  · rintro pre g post rfl
    rw [List.append_assoc]
    rcases scan_append_mark (.tag g) post pre with hscan | ⟨_, g', pre', htoken, hpre, hscan⟩
    · exact .inl hscan
    · cases htoken
      exact .inr ⟨pre', g', hpre, hscan⟩

/-- A third brace in front is literal text. -/
theorem scan_stray_brace :
    scan ('{' :: braced Scalar.clientName.name)
      = [.literal ['{'], .placeholder (.scalar .clientName)] := by
  have hscan := (scan_reads_grammar ('{' :: braced Scalar.clientName.name)).2.2.1 ['{']
    Scalar.clientName.name (.scalar .clientName) [] rfl (.scalar .clientName)
  rw [hscan, scan_cons_of_readMark?_eq_none (by decide), scan_nil]
  rfl

end Token

end Conveyance
