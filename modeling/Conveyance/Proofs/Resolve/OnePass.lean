import Conveyance.Proofs.Resolve.TableTemplate

/-!
# Proofs/Resolve/OnePass — a template is filled in once

What is filled in is the texts of the tokens, in order, with nothing but newlines between them
(`Filling.Spaced`): **one in front of a table that does not start a line, and one in front of the
first text behind a table**, where it does not start with one itself.  The flag that a `Filling`
carries says that nothing has been written since a table, however many tokens were empty
(`Filling.Holds`).  A template without placeholders is filled in to itself.
-/

namespace Conveyance

namespace Filling

/-! ## Parts -/

/-- A token filled in: what is put in front of it, and the text it stands for. -/
structure Part where
  gap : Text
  token : Token
  text : Text

/-- The text of parts. -/
def written (parts : List Part) : Text := parts.flatMap fun p => p.gap ++ p.text

/-- A line starts after the text. -/
def StartsLine (t : Text) : Prop := t = [] ∨ t.getLast? = some '\n'

/-- A line ends before the text. -/
def EndsLine (t : Text) : Prop := t = [] ∨ t.head? = some '\n'

/-- **Nothing has been written since a table.** -/
def AfterTable (parts : List Part) : Prop :=
  ∃ before p after, parts = before ++ p :: after ∧ p.token.isTable = true ∧ ∀ q ∈ after, q.text = []

/-- **Tables on lines of their own**, and newlines only where they are wanted for that. -/
structure Spaced (parts : List Part) : Prop where
  newlines : ∀ p ∈ parts, ∀ c ∈ p.gap, c = '\n'
  wanted : ∀ before p after, parts = before ++ p :: after → p.gap ≠ [] →
    (p.token.isTable = true ∧ ¬ StartsLine (written before)) ∨
      (AfterTable before ∧ p.text ≠ [] ∧ p.text.head? ≠ some '\n')
  startsLine : ∀ before p after, parts = before ++ p :: after → p.token.isTable = true →
    StartsLine (written before ++ p.gap)
  endsLine : ∀ before p after, parts = before ++ p :: after → p.token.isTable = true →
    EndsLine (written after)

/-- A part of some parts and one more is among them or is the last. -/
theorem eq_of_concat_eq {α : Type} {parts before after : List α} {p q : α}
    (h : parts ++ [q] = before ++ p :: after) :
    (before = parts ∧ p = q ∧ after = []) ∨
      ∃ late, after = late ++ [q] ∧ parts = before ++ p :: late := by
  rcases List.eq_nil_or_concat after with rfl | ⟨late, r, rfl⟩
  · obtain ⟨rfl, hlast⟩ := List.append_inj' h rfl
    exact .inl ⟨rfl, (List.cons.inj hlast).1.symm, rfl⟩
  · rw [List.concat_eq_append, ← List.cons_append, ← List.append_assoc] at h
    rw [List.concat_eq_append]
    obtain ⟨hparts, hlast⟩ := List.append_inj' h rfl
    obtain rfl := (List.cons.inj hlast).1
    exact .inr ⟨late, rfl, hparts⟩

theorem written_concat (parts : List Part) (p : Part) :
    written (parts ++ [p]) = written parts ++ (p.gap ++ p.text) := by
  simp [written]

theorem afterTable_concat {parts : List Part} {q : Part} :
    AfterTable (parts ++ [q]) ↔ q.token.isTable = true ∨ (AfterTable parts ∧ q.text = []) := by
  constructor
  · rintro ⟨before, p, after, h, htable, hempty⟩
    rcases eq_of_concat_eq h with ⟨_, rfl, _⟩ | ⟨late, rfl, hparts⟩
    · exact .inl htable
    · refine .inr ⟨⟨before, p, late, hparts, htable, fun r hr => ?_⟩, ?_⟩
      · exact hempty r (List.mem_append_left _ hr)
      · exact hempty q (List.mem_append_right _ (List.mem_singleton_self q))
  · rintro (htable | ⟨⟨before, p, late, rfl, htable, hempty⟩, hq⟩)
    · exact ⟨parts, q, [], rfl, htable, by simp⟩
    · refine ⟨before, p, late ++ [q], by simp, htable, fun r hr => ?_⟩
      rcases List.mem_append.1 hr with hr | hr
      · exact hempty r hr
      · rw [List.mem_singleton.1 hr, hq]

/-! ## One token -/

/-- **What is filled in is spaced parts**, and the flag says whether a table stands last. -/
structure Holds (s : Filling) (parts : List Part) : Prop where
  text : s.text = written parts
  afterTable : s.afterTable = true ↔ AfterTable parts
  spaced : Spaced parts

theorem newlineBefore_eq (s : Filling) (isTable : Bool) :
    (s.newlineBefore isTable = [] ∧ (isTable = true → StartsLine s.text)) ∨
      (s.newlineBefore isTable = ['\n'] ∧ isTable = true ∧ ¬ StartsLine s.text) := by
  have hiff : ((isTable && !s.text.isEmpty && s.text.getLast? != some '\n') = true)
      ↔ isTable = true ∧ ¬ StartsLine s.text := by
    simp [StartsLine, and_assoc]
  rw [newlineBefore]
  split
  · next h => exact .inr ⟨rfl, hiff.1 h⟩
  · next h =>
    refine .inl ⟨rfl, fun htable => ?_⟩
    by_contra hline
    exact h (hiff.2 ⟨htable, hline⟩)

theorem newlineAfter_eq (s : Filling) (t : Text) :
    (s.newlineAfter t = [] ∧ (s.afterTable = true → EndsLine t)) ∨
      (s.newlineAfter t = ['\n'] ∧ s.afterTable = true ∧ ¬ EndsLine t) := by
  have hiff : ((s.afterTable && !t.isEmpty && t.head? != some '\n') = true)
      ↔ s.afterTable = true ∧ ¬ EndsLine t := by
    simp [EndsLine, and_assoc]
  rw [newlineAfter]
  split
  · next h => exact .inr ⟨rfl, hiff.1 h⟩
  · next h =>
    refine .inl ⟨rfl, fun htable => ?_⟩
    by_contra hline
    exact h (hiff.2 ⟨htable, hline⟩)

/-- The part that one more token makes. -/
def part (s : Filling) (token : Token) (text : Text) : Part where
  gap := s.newlineBefore token.isTable ++ s.newlineAfter text
  token := token
  text := text

theorem Holds.init : Holds {} [] where
  text := rfl
  afterTable := by
    constructor
    · intro h
      cases h
    · rintro ⟨before, p, after, h, _⟩
      simp at h
  spaced :=
    { newlines := by simp
      wanted := by simp
      startsLine := by simp
      endsLine := by simp }

variable {s : Filling} {parts : List Part} {token : Token} {text : Text}

/-- Newlines are put where a line has to start or to end. -/
theorem mem_gap {c : Char} (h : c ∈ (s.part token text).gap) : c = '\n' := by
  rw [part, List.mem_append] at h
  rcases h with h | h
  · rcases s.newlineBefore_eq token.isTable with ⟨hgap, _⟩ | ⟨hgap, _⟩
    · rw [hgap] at h
      cases h
    · rw [hgap] at h
      exact List.mem_singleton.1 h
  · rcases s.newlineAfter_eq text with ⟨hgap, _⟩ | ⟨hgap, _⟩
    · rw [hgap] at h
      cases h
    · rw [hgap] at h
      exact List.mem_singleton.1 h

/-- A newline in front of a table and a newline behind one both end a line and start one. -/
theorem startsLine_gap (htable : token.isTable = true) :
    StartsLine (s.text ++ (s.part token text).gap) := by
  rcases hgap : (s.part token text).gap with _ | ⟨c, gap⟩
  · rw [List.append_nil]
    rcases s.newlineBefore_eq token.isTable with ⟨_, hline⟩ | ⟨hbefore, _⟩
    · exact hline htable
    · rw [part, hbefore] at hgap
      cases hgap
  · obtain ⟨before, d, hlast⟩ := Text.exists_eq_concat (List.cons_ne_nil c gap)
    have hmem : d ∈ (s.part token text).gap := by simp [hgap, hlast]
    have hd : d = '\n' := mem_gap hmem
    rw [hlast, hd, ← List.append_assoc]
    exact .inr (List.getLast?_concat ..)

theorem endsLine_gap (hafter : s.afterTable = true) :
    EndsLine ((s.part token text).gap ++ text) := by
  rcases s.newlineBefore_eq token.isTable with ⟨hbefore, _⟩ | ⟨hbefore, _⟩
  · rcases s.newlineAfter_eq text with ⟨hgap, hline⟩ | ⟨hgap, _⟩
    · rw [part, hbefore, hgap]
      exact hline hafter
    · rw [part, hbefore, hgap]
      exact .inr rfl
  · rw [part, hbefore]
    exact .inr rfl

/-- **One token more.** -/
theorem Holds.add (h : Holds s parts) (token : Token) (text : Text) :
    Holds (s.add token.isTable text) (parts ++ [s.part token text]) where
  text := by
    rw [written_concat, ← h.text, Filling.add, part]
    simp only [List.append_assoc]
  afterTable := by
    rw [afterTable_concat, ← h.afterTable, Filling.add, part]
    simp
  spaced :=
    { newlines := by
        intro p hp c hc
        rcases List.mem_append.1 hp with hp | hp
        · exact h.spaced.newlines p hp c hc
        · rw [List.mem_singleton.1 hp] at hc
          exact mem_gap hc
      wanted := by
        intro before p after hconcat hgap
        rcases eq_of_concat_eq hconcat with ⟨rfl, rfl, _⟩ | ⟨late, _, hparts⟩
        · rcases s.newlineBefore_eq token.isTable with ⟨hbefore, _⟩ | ⟨_, htable, hline⟩
          · rcases s.newlineAfter_eq text with ⟨hafter, _⟩ | ⟨_, htable, hline⟩
            · exact absurd (by rw [part, hbefore, hafter]; rfl) hgap
            · exact .inr ⟨h.afterTable.1 htable, not_or.1 hline⟩
          · exact .inl ⟨htable, h.text ▸ hline⟩
        · exact h.spaced.wanted before p late hparts hgap
      startsLine := by
        intro before p after hconcat htable
        rcases eq_of_concat_eq hconcat with ⟨rfl, rfl, _⟩ | ⟨late, _, hparts⟩
        · rw [← h.text]
          exact startsLine_gap htable
        · exact h.spaced.startsLine before p late hparts htable
      endsLine := by
        intro before p after hconcat htable
        rcases eq_of_concat_eq hconcat with ⟨_, _, rfl⟩ | ⟨late, rfl, hparts⟩
        · exact .inl rfl
        · rw [written_concat]
          rcases h.spaced.endsLine before p late hparts htable with hnil | hhead
          · -- nothing is written behind the table yet, so the flag is set
            have hlate : ∀ q ∈ late, q.text = [] := by
              intro q hq
              exact (List.append_eq_nil_iff.1 (List.flatMap_eq_nil_iff.1 hnil q hq)).2
            have hafter := h.afterTable.2 ⟨before, p, late, hparts, htable, hlate⟩
            rw [hnil, List.nil_append]
            exact endsLine_gap hafter
          · obtain ⟨rest, hrest⟩ := List.head?_eq_some_iff.1 hhead
            rw [hrest]
            exact .inr rfl }

/-! ## All tokens -/

variable (f : Format) (ctx : Context)

/-- The parts that tokens make, when all of them are resolved. -/
theorem Holds.exists_foldlM (tokens : List Token) (h : Holds s parts) :
    (∃ s' more, tokens.foldlM (take f ctx) s = some s' ∧ Holds s' (parts ++ more) ∧
        more.map Part.token = tokens ∧ ∀ p ∈ more, p.token.resolve? f ctx = some p.text) ∨
      (tokens.foldlM (take f ctx) s = none ∧ ∃ token ∈ tokens, token.resolve? f ctx = none) := by
  induction tokens generalizing s parts with
  | nil => exact .inl ⟨s, [], rfl, by rwa [List.append_nil], rfl, by simp⟩
  | cons token tokens ih =>
    rcases hresolve : token.resolve? f ctx with _ | text
    · refine .inr ⟨?_, token, List.mem_cons_self, hresolve⟩
      rw [List.foldlM_cons, take, hresolve]
      rfl
    · have hstep : (token :: tokens).foldlM (take f ctx) s
          = tokens.foldlM (take f ctx) (s.add token.isTable text) := by
        rw [List.foldlM_cons, take, hresolve]
        rfl
      rcases ih (h.add token text) with ⟨s', more, hrun, hholds, htokens, htexts⟩ | ⟨hrun, hnone⟩
      · refine .inl ⟨s', s.part token text :: more, hstep.trans hrun, ?_, ?_, ?_⟩
        · rwa [List.append_assoc] at hholds
        · rw [List.map_cons, htokens]
          rfl
        · exact List.forall_mem_cons.2 ⟨hresolve, htexts⟩
      · obtain ⟨token', htoken', hnone⟩ := hnone
        exact .inr ⟨hstep.trans hrun, token', List.mem_cons_of_mem token htoken', hnone⟩

/-- Tokens that are written as they stand add nothing but themselves. -/
theorem foldlM_of_factors {tokens : List Token} {factors : List Text}
    (hfactors : List.Forall₂ Token.Factor tokens factors)
    (htokens : ∀ token ∈ tokens, ∀ p, token ≠ .placeholder p) (t : Text) :
    tokens.foldlM (take f ctx) ⟨t, false⟩ = some ⟨t ++ factors.flatten, false⟩ := by
  induction hfactors generalizing t with
  | nil => simp
  | @cons token factor tokens factors hfactor _ ih =>
    have htake : take f ctx ⟨t, false⟩ token = some ⟨t ++ factor, false⟩ := by
      rcases token with text | p | g
      · rw [hfactor.eq_of_literal]
        simp [take, Token.resolve?, Token.isTable, Filling.add, newlineBefore, newlineAfter]
      · exact absurd rfl (htokens _ List.mem_cons_self p)
      · obtain ⟨_⟩ | ⟨hmark⟩ := hfactor
        rw [hmark.eq_text]
        simp [take, Token.resolve?, Token.isTable, Filling.add, newlineBefore, newlineAfter]
    rw [List.foldlM_cons, htake, Option.bind_eq_bind, Option.bind_some,
      ih fun token h => htokens token (List.mem_cons_of_mem _ h), List.flatten_cons,
      List.append_assoc]

end Filling

open Filling (Part Spaced written)
open ListingEntry (braced)

variable (f : Format) (ctx : Context)

/-- Only a total out of range has no text. -/
theorem Token.eq_total_of_resolve? {token : Token} (h : token.resolve? f ctx = none) :
    ∃ c, token = .placeholder (.total c) ∧ c.total? ctx = none := by
  rcases token with text | p | g
  · cases h
  · rcases p with field | field | ⟨c, column, index⟩ | c | c | c
    · cases h
    · cases h
    · cases h
    · cases h
    · exact ⟨c, rfl, Option.map_eq_none_iff.1 h⟩
    · cases h
  · cases h

/-- **A template is filled in by one pass over its tokens**: their texts in order, with newlines put
only where a table needs them for lines of its own.  This fails only where a total leaves the range
of decimals, and a template without placeholders comes out as it is. -/
theorem render?_onePass (template : Text) :
    ((∃ parts : List Part, parts.map Part.token = Token.scan template ∧
          (∀ p ∈ parts, p.token.resolve? f ctx = some p.text) ∧ Spaced parts ∧
          render? f ctx template = some (written parts)) ∨
        (render? f ctx template = none ∧
          ∃ c, .placeholder (.total c) ∈ Token.scan template ∧ c.total? ctx = none)) ∧
      ((∀ token ∈ Token.scan template, ∀ p, token ≠ .placeholder p) →
        render? f ctx template = some template) := by
  have hrender : render? f ctx template
      = ((Token.scan template).foldlM (Filling.take f ctx) {}).map (·.text) := rfl
  refine ⟨?_, fun htokens => ?_⟩
  · rcases Filling.Holds.init.exists_foldlM f ctx (Token.scan template) with
      ⟨s', parts, hrun, hholds, htokens, htexts⟩ | ⟨hrun, token, htoken, hnone⟩
    · refine .inl ⟨parts, htokens, htexts, hholds.spaced, ?_⟩
      rw [hrender, hrun, Option.map_some, hholds.text, List.nil_append]
    · obtain ⟨c, rfl, htotal⟩ := Token.eq_total_of_resolve? f ctx hnone
      refine .inr ⟨?_, c, htoken, htotal⟩
      rw [hrender, hrun, Option.map_none]
  · obtain ⟨factors, hfactors, hflat⟩ := Token.exists_factors_scan template
    have hrun := Filling.foldlM_of_factors f ctx hfactors htokens []
    rw [hflat, List.nil_append] at hrun
    rw [hrender]
    exact congrArg (Option.map _) hrun

/-- A heading between tags, and a name that stands for nothing. -/
def unknownName : Text :=
  Tag.text (.opening .center) ++ "# Agreement".toList ++ Tag.text (.closing .center) ++
    braced "NOBODY".toList

/-- Tags and unknown names are kept. -/
theorem render?_unknownName :
    (∀ token ∈ Token.scan unknownName, ∀ p, token ≠ .placeholder p) ∧
      render? {} (.onePending []) unknownName = some unknownName := by
  have hscan : Token.scan unknownName = [.tag (.opening .center), .literal "# Agreement".toList,
      .tag (.closing .center), .literal (braced "NOBODY".toList)] := by decide +kernel
  have htokens : ∀ token ∈ Token.scan unknownName, ∀ p, token ≠ .placeholder p := by
    rw [hscan]
    simp
  exact ⟨htokens, (render?_onePass {} (.onePending []) unknownName).2 htokens⟩

/-- A description that is spelled like a placeholder is no placeholder. -/
example : render? {} (.onePending (braced "PENDING_PAYMENT_SR_NO[0]".toList))
    (braced "PENDING_PAYMENT_DESCRIPTION[0]".toList)
      = some (braced "PENDING_PAYMENT_SR_NO[0]".toList) := by decide +kernel

end Conveyance
