import Conveyance.Proofs.Markup.BlankLine
import Conveyance.Proofs.Resolve.Crlf
import Conveyance.Proofs.Resolve.OnePass

/-!
# Proofs/Resolve/LineEnds — templates with the other line ends

The formatter reads both spellings of a line end as one, but a template is filled in before that.
**A line end is shifted** when it stands directly behind a table, which takes the carriage return
for text and puts a newline of its own in front of it, or behind a text that ends with a carriage
return itself, which stays (`LineEnd.shifted`).  Where no line end is shifted, both spellings fill
in to the same lines, and only there; where a line of text follows every table whose line end is
shifted, they still make the same blocks (`renderTemplate?_crlf`).
-/

namespace Conveyance

/-- The last part of what is joined starts a line. -/
theorem Text.exists_join_eq_append {lines : List Text} (hne : lines ≠ []) :
    ∃ before, ∃ line ∈ lines, join ['\n'] lines = before ++ line ∧
      (before = [] ∨ before.getLast? = some '\n') := by
  induction lines with
  | nil => exact absurd rfl hne
  | cons line lines ih =>
    rcases lines with _ | ⟨next, lines⟩
    · exact ⟨[], line, List.mem_singleton_self line, by simp, .inl rfl⟩
    · obtain ⟨before, last, hlast, hjoin, hbefore⟩ := ih (List.cons_ne_nil next lines)
      refine ⟨line ++ '\n' :: before, last, List.mem_cons_of_mem line hlast, ?_, .inr ?_⟩
      · rw [Text.join_cons_cons, hjoin]
        simp
      · rcases hbefore with rfl | hbefore
        · exact List.getLast?_concat
        · rw [List.getLast?_append, getLast?_cons_of_getLast? hbefore]
          rfl

/-- **The last row of a table is a line of its own.** -/
theorem Table.exists_markup_eq_append (t : Table) (htilde : '~' ∉ t.markup) :
    ∃ before row, t.markup = before ++ row ∧ (before = [] ∨ before.getLast? = some '\n') ∧
      Row.OwnLine row := by
  obtain ⟨before, row, hrow, hmarkup, hbefore⟩ := Text.exists_join_eq_append t.lines_ne_nil
  refine ⟨before, row, hmarkup, hbefore, ?_, unmarked_of_mem_lines hrow,
    notMem_of_mem_lines hrow (.inr rfl), fun h => htilde ?_, notMem_of_mem_lines hrow (.inl rfl)⟩
  · obtain ⟨cells, _, rfl⟩ := List.mem_map.1 hrow
    exact Row.isRow_markup cells
  · rw [markup, hmarkup]
    exact List.mem_append_right before h

namespace Token

/-! ## Line ends -/

/-- A line end that starts literal text, behind a text that is not empty. -/
structure LineEnd where
  /-- What stands directly before it: the last token whose text is not empty. -/
  token : Token
  text : Text
  /-- What follows: the rest of the literal text, then more tokens. -/
  rest : Text
  after : List Token

namespace LineEnd

/-- **The line end is shifted** when it is spelled with a carriage return: a table gets a newline of
its own in front of it, and a carriage return before it stays. -/
def shifted (e : LineEnd) : Bool := e.token.isTable || e.text.getLast? == some '\r'

/-- What follows the line end, filled in. -/
def behind (f : Format) (ctx : Context) (e : LineEnd) : Text :=
  e.rest ++ e.after.flatMap fun token => (token.resolve? f ctx).getD []

/-- **No block changes with the line end**: it is not shifted, or it ends a table without tildes,
and a line of text follows or nothing at all. -/
def Harmless (f : Format) (ctx : Context) (e : LineEnd) : Prop :=
  e.shifted = true →
    e.token.isTable = true ∧ '~' ∉ e.text ∧ (e.behind f ctx = [] ∨ (e.behind f ctx).OpensLine)

end LineEnd

/-- The line end that a token starts with, behind the last text. -/
def lineEnd? (last : Option (Token × Text)) (token : Token) (after : List Token) :
    Option LineEnd :=
  match last, token with
  | some (before, text), literal ('\n' :: rest) => some ⟨before, text, rest, after⟩
  | _, _ => none

/-- **The line ends that start literal text**, each with what stands before it and what follows. -/
def lineEnds (f : Format) (ctx : Context) (last : Option (Token × Text)) :
    List Token → List LineEnd
  | [] => []
  | token :: after =>
    let text := (token.resolve? f ctx).getD []
    (lineEnd? last token after).toList
      ++ lineEnds f ctx (if text = [] then last else some (token, text)) after

end Token

open Token (LineEnd)

/-! ## Texts that differ in line ends -/

variable (f : Format) (ctx : Context)

/-- **What line ends change in a text.** -/
structure ShiftedBy (ends : List LineEnd) (t u : Text) : Prop where
  length : (Text.unixLines u).length
    = (Text.unixLines t).length + ends.countP LineEnd.shifted
  lines : (∀ e ∈ ends, e.shifted = false) → Text.unixLines u = Text.unixLines t
  blocks : (∀ e ∈ ends, e.Harmless f ctx) → formatBlocks u = formatBlocks t

theorem ShiftedBy.of_unixLines {t u : Text} (ends : List LineEnd)
    (hends : ∀ e ∈ ends, e.shifted = false) (h : Text.unixLines u = Text.unixLines t) :
    ShiftedBy f ctx ends t u where
  length := by
    rw [h, List.countP_eq_zero.2 fun e he => Bool.eq_false_iff.1 (hends e he)]
    rfl
  lines _ := h
  blocks _ := formatBlocks_congr h

theorem ShiftedBy.trans {ends ends' : List LineEnd} {t u v : Text} (h : ShiftedBy f ctx ends t u)
    (h' : ShiftedBy f ctx ends' u v) : ShiftedBy f ctx (ends ++ ends') t v where
  length := by
    rw [h'.length, h.length, List.countP_append, Nat.add_assoc]
  lines hends :=
    (h'.lines fun e he => hends e (List.mem_append_right _ he)).trans
      (h.lines fun e he => hends e (List.mem_append_left _ he))
  blocks hends :=
    (h'.blocks fun e he => hends e (List.mem_append_right _ he)).trans
      (h.blocks fun e he => hends e (List.mem_append_left _ he))

/-- The text of a table is a table that is written. -/
theorem Token.exists_resolve?_of_isTable {token : Token} (h : token.isTable = true) :
    ∃ table : Table, token.resolve? f ctx = some table.markup := by
  rcases token with _ | (_ | _ | _ | c | _ | _) | _
  case placeholder.table => exact ⟨Table.ofCollection f ctx c, rfl⟩
  all_goals cases h

/-- The text of a table starts with a bar. -/
theorem Token.isTable_of_resolve? {token : Token} {text : Text}
    (h : token.resolve? f ctx = some text) (hbar : text.head? ≠ some '|') :
    token.isTable = false := by
  refine Bool.eq_false_iff.2 fun htable => ?_
  obtain ⟨table, hmarkup⟩ := exists_resolve?_of_isTable f ctx htable
  obtain ⟨inner, hinner⟩ := table.exists_markup_eq
  obtain rfl : text = table.markup := Option.some.inj (h.symm.trans hmarkup)
  exact hbar (by rw [hinner]; rfl)

namespace Filling

/-! ## What is written so far -/

variable {s s' : Filling} {last : Option (Token × Text)}

/-- **What is written ends with the last text that is not empty**; a table stands on lines of its
own. -/
def EndsWith (s : Filling) : Option (Token × Text) → Prop
  | none => s.text = [] ∧ s.afterTable = false
  | some (token, text) => s.text.getLast? = text.getLast? ∧ s.afterTable = token.isTable ∧
      (token.isTable = true → ∃ (before : Text) (table : Table), StartsLine before ∧
        text = table.markup ∧ s.text = before ++ text)

/-- **Two templates filled in alike**, up to the spelling of their line ends. -/
structure Respelled (s s' : Filling) (last : Option (Token × Text)) : Prop where
  afterTable : s'.afterTable = s.afterTable
  getLast? : s'.text.getLast? = s.text.getLast?
  endsWith : s'.EndsWith last

theorem Respelled.init : Respelled {} {} none := ⟨rfl, rfl, rfl, rfl⟩

theorem add_nil (s : Filling) : s.add false [] = s := by
  simp [add, newlineBefore, newlineAfter]

theorem text_add (s : Filling) (token : Token) (text : Text) :
    (s.add token.isTable text).text = s.text ++ ((s.part token text).gap ++ text) := by
  simp only [add, part, List.append_assoc]

theorem Respelled.gap_eq (h : Respelled s s' last) (token : Token) (text : Text) :
    (s'.part token text).gap = (s.part token text).gap := by
  rw [part, part, newlineBefore, newlineBefore, newlineAfter, newlineAfter, h.afterTable,
    h.getLast?, Text.isEmpty_eq_of_getLast? h.getLast?]

/-- **One token more**, whose texts end alike. -/
theorem Respelled.add (h : Respelled s s' last) {token : Token} {text text' : Text}
    (hresolve : token.resolve? f ctx = some text) (hlast : text'.getLast? = text.getLast?)
    (htable : token.isTable = true → text' = text) :
    Respelled (s.add token.isTable text) (s'.add token.isTable text')
      (if text = [] then last else some (token, text)) := by
  split
  · next htext =>
    have htext' : text' = [] := by
      rw [← List.isEmpty_iff, Text.isEmpty_eq_of_getLast? hlast, htext]
      rfl
    have hno := Token.isTable_of_resolve? f ctx hresolve (by simp [htext])
    rw [htext, htext', hno, add_nil, add_nil]
    exact h
  · next htext =>
    have hempty : text.isEmpty = false := List.isEmpty_eq_false_iff.2 htext
    have hempty' : text'.isEmpty = false := (Text.isEmpty_eq_of_getLast? hlast).trans hempty
    have htext' : text' ≠ [] := List.isEmpty_eq_false_iff.1 hempty'
    have hend : ∀ {r : Filling} {t : Text}, t ≠ [] →
        (r.add token.isTable t).text.getLast? = t.getLast? := fun ht => by
      rw [text_add, ← List.append_assoc, List.getLast?_append_of_ne_nil _ ht]
    refine ⟨?_, ?_, ?_, ?_, fun htoken => ?_⟩
    · simp only [Filling.add, h.afterTable, hempty, hempty']
    · rw [hend htext, hend htext', hlast]
    · rw [hend htext', hlast]
    · simp [Filling.add, hempty']
    · obtain rfl := htable htoken
      obtain ⟨table, hmarkup⟩ := Token.exists_resolve?_of_isTable f ctx htoken
      obtain rfl := Option.some.inj (hresolve.symm.trans hmarkup)
      refine ⟨s'.text ++ (s'.part token table.markup).gap, table, startsLine_gap htoken, rfl, ?_⟩
      rw [text_add, List.append_assoc]

/-! ## Literal text -/

/-- Literal text only waits for the newline behind a table. -/
theorem part_literal_gap (s : Filling) (t u : Text) :
    (s.part (.literal t) u).gap = s.newlineAfter u := rfl

/-- **A line end behind a table** leaves a blank line, harmless where text follows. -/
theorem shiftedBy_table {a w : Text} {e : LineEnd} (htoken : e.token.isTable = true)
    {before : Text} {table : Table} (hbefore : StartsLine before) (htext : e.text = table.markup)
    (ha : a = before ++ e.text) (hrest : '\r' ∉ e.rest)
    (hw : (e.rest ++ w).head? = (e.behind f ctx).head?) :
    ShiftedBy f ctx [e] (a ++ ('\n' :: (e.rest ++ w)))
      (a ++ ('\n' :: (Text.crlf ('\n' :: e.rest) ++ w))) := by
  have hshifted : e.shifted = true := by rw [LineEnd.shifted, htoken, Bool.true_or]
  have hlast : a.getLast? ≠ some '\r' := by
    obtain ⟨inner, hinner⟩ := table.exists_markup_eq
    rw [ha, htext, hinner, ← List.cons_append, ← List.append_assoc, List.getLast?_concat]
    simp
  have hblank : Text.unixLines (a ++ '\n' :: (Text.crlf ('\n' :: e.rest) ++ w))
      = Text.unixLines (a ++ '\n' :: '\n' :: (e.rest ++ w)) := by
    have hcrlf := Text.unixLines_crlf w (s := a ++ ['\n']) (t := '\n' :: e.rest)
      (by simpa using hrest) (by simp)
    simpa using hcrlf
  refine ⟨?_, fun h => ?_, fun h => ?_⟩
  · rw [hblank, Text.unixLines_append_newline hlast, Text.unixLines_append_newline hlast,
      Text.unixLines_cons (by decide)]
    simp [hshifted]
    omega
  · rw [h e (List.mem_singleton_self e)] at hshifted
    cases hshifted
  · obtain ⟨-, htilde, hbehind⟩ := h e (List.mem_singleton_self e) hshifted
    obtain ⟨above, row, hmarkup, habove, hrow⟩ := table.exists_markup_eq_append (htext ▸ htilde)
    have hstart : before ++ above = [] ∨ (before ++ above).getLast? = some '\n' := by
      rcases habove with rfl | habove
      · rw [List.append_nil]
        exact hbefore
      · exact .inr (by rw [List.getLast?_append, habove]; rfl)
    have hopens : e.rest ++ w = [] ∨ (e.rest ++ w).OpensLine := by
      rcases hbehind with hnil | hopens
      · exact .inl (List.head?_eq_none_iff.1 (by rw [hw, hnil]; rfl))
      · exact .inr (hopens.of_head? hw)
    have hblocks := formatBlocks_blankLine hstart hrow hopens
    rw [formatBlocks_congr hblank, ha, htext, hmarkup]
    simpa using hblocks

/-- **A line end behind a carriage return** leaves the carriage return. -/
theorem shiftedBy_carriageReturn {a w : Text} {e : LineEnd} (htoken : e.token.isTable = false)
    (htext : e.text.getLast? = some '\r') (ha : a.getLast? = e.text.getLast?)
    (hrest : '\r' ∉ e.rest) :
    ShiftedBy f ctx [e] (a ++ ('\n' :: (e.rest ++ w)))
      (a ++ (Text.crlf ('\n' :: e.rest) ++ w)) := by
  have hshifted : e.shifted = true := by rw [LineEnd.shifted, htext]; simp
  obtain ⟨before, rfl⟩ := List.getLast?_eq_some_iff.1 (ha.trans htext)
  have hcrlf := Text.unixLines_crlf w (s := []) hrest (by simp)
  refine ⟨?_, fun h => ?_, fun h => ?_⟩
  · rw [Text.crlf_newline, List.cons_append, List.cons_append, Text.unixLines_append_crlf,
      List.append_assoc, List.singleton_append, Text.unixLines_append_crlf,
      Text.unixLines_append (by simp), ← List.nil_append (Text.crlf _ ++ w), hcrlf]
    simp [hshifted, Text.unixLines]
    omega
  · rw [h e (List.mem_singleton_self e)] at hshifted
    cases hshifted
  · rw [(h e (List.mem_singleton_self e) hshifted).1] at htoken
    cases htoken

theorem head?_crlf {t : Text} (h : t.head? ≠ some '\n') : t.crlf.head? = t.head? := by
  rcases t with _ | ⟨c, t⟩
  · rfl
  · rw [Text.crlf_cons fun hc => h (by rw [hc]; rfl)]
    rfl

/-- **A line end, spelled both ways**: it is shifted behind a table or a carriage return. -/
theorem Respelled.shiftedBy_newline (h : Respelled s s' last) {rest : Text} (hrest : '\r' ∉ rest)
    {after : List Token} {w : Text}
    (hw : ∀ token x,
      (rest ++ w).head? = (LineEnd.behind f ctx ⟨token, x, rest, after⟩).head?) :
    ShiftedBy f ctx (Token.lineEnd? last (.literal ('\n' :: rest)) after).toList
      (s'.text ++ ('\n' :: (rest ++ w)))
      (s'.text ++ (s'.newlineAfter (Text.crlf ('\n' :: rest)) ++
        (Text.crlf ('\n' :: rest) ++ w))) := by
  have hreturn : '\r' ∉ '\n' :: rest := by simpa using hrest
  rcases last with _ | ⟨token, x⟩
  · obtain ⟨htext, hafter⟩ := h.endsWith
    have hgap : s'.newlineAfter (Text.crlf ('\n' :: rest)) = [] := by
      simp [newlineAfter, hafter]
    rw [hgap, List.nil_append]
    exact .of_unixLines f ctx [] (by simp) (Text.unixLines_crlf w hreturn (by simp [htext]))
  · obtain ⟨hlast, hafter, htable⟩ := h.endsWith
    cases htoken : token.isTable with
    | true =>
      obtain ⟨before, table, hbefore, hx, htext⟩ := htable htoken
      have hgap : s'.newlineAfter (Text.crlf ('\n' :: rest)) = ['\n'] := by
        simp [newlineAfter, hafter, htoken, Text.crlf_newline]
      rw [hgap]
      exact shiftedBy_table f ctx (e := ⟨token, x, rest, after⟩) htoken hbefore hx htext hrest
        (hw token x)
    | false =>
      have hgap : s'.newlineAfter (Text.crlf ('\n' :: rest)) = [] := by
        simp [newlineAfter, hafter, htoken]
      rw [hgap, List.nil_append]
      by_cases hx : x.getLast? = some '\r'
      · exact shiftedBy_carriageReturn f ctx (e := ⟨token, x, rest, after⟩) htoken hx hlast hrest
      · refine .of_unixLines f ctx _ (fun e he => ?_) (Text.unixLines_crlf w hreturn fun h => ?_)
        · rw [List.mem_singleton.1 he, LineEnd.shifted, htoken]
          simpa using hx
        · exact hx (hlast.symm.trans h.1)

/-- **Literal text, spelled both ways**: only the line end that it starts with can be shifted. -/
theorem Respelled.shiftedBy_literal (h : Respelled s s' last) {text : Text}
    (hreturn : '\r' ∉ text) {after : List Token} {w : Text}
    (hw : ∀ token x rest, text = '\n' :: rest →
      (rest ++ w).head? = (LineEnd.behind f ctx ⟨token, x, rest, after⟩).head?) :
    ShiftedBy f ctx (Token.lineEnd? last (.literal text) after).toList
      (s'.text ++ ((s.part (.literal text) text).gap ++ (text ++ w)))
      (s'.text ++ ((s'.part (.literal text) text.crlf).gap ++ (text.crlf ++ w))) := by
  rw [part_literal_gap, part_literal_gap]
  by_cases hhead : text.head? = some '\n'
  · obtain ⟨rest, rfl⟩ := List.head?_eq_some_iff.1 hhead
    have hgap : s.newlineAfter ('\n' :: rest) = [] := by simp [newlineAfter]
    rw [hgap, List.nil_append]
    exact h.shiftedBy_newline f ctx (List.not_mem_of_not_mem_cons hreturn)
      fun token x => hw token x rest rfl
  · have hends : Token.lineEnd? last (.literal text) after = none := by
      rw [Token.lineEnd?]
      intro _ _ rest _ heq
      exact hhead (by rw [Token.literal.inj heq]; rfl)
    have hgap : s'.newlineAfter text.crlf = s.newlineAfter text := by
      rw [newlineAfter, newlineAfter, h.afterTable, head?_crlf hhead,
        Text.isEmpty_eq_of_getLast? (Text.getLast?_crlf text)]
    have hunix := Text.unixLines_crlf w (s := s'.text ++ s.newlineAfter text) hreturn
      fun h => hhead h.2
    rw [List.append_assoc, List.append_assoc] at hunix
    rw [hends, hgap]
    exact .of_unixLines f ctx [] (by simp) hunix

/-- Tokens write behind what is written. -/
theorem exists_text_of_foldlM {tokens : List Token} {s r : Filling}
    (hrun : tokens.foldlM (take f ctx) s = some r) : ∃ w, r.text = s.text ++ w := by
  induction tokens generalizing s with
  | nil =>
    obtain rfl := Option.some.inj hrun
    exact ⟨[], (List.append_nil _).symm⟩
  | cons token tokens ih =>
    rw [List.foldlM_cons, take] at hrun
    rcases hresolve : token.resolve? f ctx with _ | text
    · rw [hresolve] at hrun
      cases hrun
    · rw [hresolve] at hrun
      obtain ⟨w, hw⟩ := ih hrun
      exact ⟨_, by rw [hw, text_add, List.append_assoc]⟩

/-- **At the start of a line, the first text that is not empty comes next.** -/
theorem head?_of_foldlM {tokens : List Token} {s r : Filling} {w : Text}
    (hafter : s.afterTable = false) (hline : s.text.getLast? = some '\n')
    (hrun : tokens.foldlM (take f ctx) s = some r) (hr : r.text = s.text ++ w) :
    w.head? = (tokens.flatMap fun token => (token.resolve? f ctx).getD []).head? := by
  induction tokens with
  | nil =>
    obtain rfl := Option.some.inj hrun
    rw [List.append_right_eq_self.1 hr.symm]
    rfl
  | cons token tokens ih =>
    rw [List.foldlM_cons, take] at hrun
    rcases hresolve : token.resolve? f ctx with _ | text
    · rw [hresolve] at hrun
      cases hrun
    · rw [hresolve] at hrun
      rw [List.flatMap_cons, hresolve, Option.getD_some]
      by_cases htext : text = []
      · rw [htext] at hresolve hrun ⊢
        rw [Token.isTable_of_resolve? f ctx hresolve (by simp), Option.map_some, add_nil] at hrun
        exact ih hrun
      · obtain ⟨w', hw'⟩ := exists_text_of_foldlM f ctx hrun
        have hgap : (s.part token text).gap = [] := by
          simp [part, newlineBefore, newlineAfter, hafter, hline]
        rw [text_add, hgap, List.nil_append, hr, List.append_assoc] at hw'
        rw [List.append_cancel_left hw', List.head?_append_of_ne_nil _ htext,
          List.head?_append_of_ne_nil _ htext]

/-- What follows a newline is what the rest of its text and the tokens behind it write. -/
theorem head?_behind {token before : Token} {x rest w : Text} {tokens : List Token}
    {s r : Filling} (htoken : token.isTable = false)
    (hrun : tokens.foldlM (take f ctx) (s.add token.isTable ('\n' :: rest)) = some r)
    (hr : r.text = (s.add token.isTable ('\n' :: rest)).text ++ w) :
    (rest ++ w).head? = (LineEnd.behind f ctx ⟨before, x, rest, tokens⟩).head? := by
  rw [LineEnd.behind]
  rcases rest with _ | ⟨c, rest⟩
  · refine head?_of_foldlM f ctx ?_ ?_ hrun hr
    · simp [Filling.add, htoken]
    · rw [text_add, ← List.append_assoc, List.getLast?_concat]
  · rfl

/-- **One token, spelled both ways.** -/
theorem Respelled.step (h : Respelled s s' last) {token : Token} {text : Text}
    (hresolve : token.resolve? f ctx = some text)
    (hreturn : ∀ t, token = .literal t → '\r' ∉ t) :
    ∃ text', token.crlf.resolve? f ctx = some text' ∧
      Respelled (s.add token.isTable text) (s'.add token.isTable text')
        (if text = [] then last else some (token, text)) ∧
      ∀ after w, (∀ before x rest, text = '\n' :: rest →
          (rest ++ w).head? = (LineEnd.behind f ctx ⟨before, x, rest, after⟩).head?) →
        ShiftedBy f ctx (Token.lineEnd? last token after).toList
          (s'.text ++ ((s.part token text).gap ++ (text ++ w)))
          (s'.text ++ ((s'.part token text').gap ++ (text' ++ w))) := by
  cases hliteral : token.isLiteral with
  | true =>
    obtain ⟨t, rfl⟩ : ∃ t, token = .literal t := by
      cases token with
      | literal t => exact ⟨t, rfl⟩
      | placeholder p => cases hliteral
      | tag g => cases hliteral
    obtain rfl : t = text := Option.some.inj hresolve
    refine ⟨t.crlf, rfl, h.add f ctx rfl (Text.getLast?_crlf t) (fun h => by cases h),
      fun after w hw => ?_⟩
    exact h.shiftedBy_literal f ctx (hreturn t rfl) hw
  | false =>
    have hcrlf : token.crlf = token := by
      cases token with
      | literal t => cases hliteral
      | placeholder p => rfl
      | tag g => rfl
    have hends : ∀ after, Token.lineEnd? last token after = none := by
      intro after
      rw [Token.lineEnd?]
      rintro _ _ _ _ rfl
      cases hliteral
    refine ⟨text, hcrlf.symm ▸ hresolve, h.add f ctx hresolve rfl fun _ => rfl,
      fun after w _ => ?_⟩
    rw [hends, h.gap_eq]
    exact .of_unixLines f ctx [] (by simp) rfl

/-- **Tokens filled in, spelled both ways.** -/
theorem Respelled.foldlM (h : Respelled s s' last) {tokens : List Token}
    (htokens : ∀ token ∈ tokens, ∀ t, token = .literal t → '\r' ∉ t) :
    (tokens.foldlM (take f ctx) s = none ∧
        (tokens.map Token.crlf).foldlM (take f ctx) s' = none) ∨
      ∃ r r' w w', tokens.foldlM (take f ctx) s = some r ∧
        (tokens.map Token.crlf).foldlM (take f ctx) s' = some r' ∧
        r.text = s.text ++ w ∧ r'.text = s'.text ++ w' ∧
        ShiftedBy f ctx (Token.lineEnds f ctx last tokens) (s'.text ++ w) (s'.text ++ w') := by
  induction tokens generalizing s s' last with
  | nil =>
    exact .inr ⟨s, s', [], [], rfl, rfl, (List.append_nil _).symm, (List.append_nil _).symm,
      .of_unixLines f ctx [] (by simp) rfl⟩
  | cons token tokens ih =>
    rw [List.map_cons, List.foldlM_cons, List.foldlM_cons, take, take]
    rcases hresolve : token.resolve? f ctx with _ | text
    · left
      have hcrlf : token.crlf.resolve? f ctx = none := by
        cases token with
        | literal t => cases hresolve
        | placeholder p => exact hresolve
        | tag g => cases hresolve
      rw [hcrlf]
      exact ⟨rfl, rfl⟩
    · obtain ⟨text', hresolve', hadd, hshifted⟩ := h.step f ctx hresolve
        (htokens token List.mem_cons_self)
      have hisTable : token.crlf.isTable = token.isTable := by cases token <;> rfl
      rw [hresolve', hisTable]
      rcases ih hadd fun token htoken => htokens token (List.mem_cons_of_mem _ htoken) with
        hnone | ⟨r, r', w, w', hrun, hrun', hr, hr', hrest⟩
      · exact .inl hnone
      · have hw : ∀ before x rest, text = '\n' :: rest →
            (rest ++ w).head? = (LineEnd.behind f ctx ⟨before, x, rest, tokens⟩).head? := by
          rintro before x rest rfl
          exact head?_behind f ctx (Token.isTable_of_resolve? f ctx hresolve (by simp)) hrun hr
        rw [text_add] at hr hr' hrest
        refine .inr ⟨r, r', (s.part token text).gap ++ (text ++ w),
          (s'.part token text').gap ++ (text' ++ w'), hrun, hrun', ?_, ?_, ?_⟩
        · rw [hr]
          simp only [List.append_assoc]
        · rw [hr']
          simp only [List.append_assoc]
        · simp only [List.append_assoc] at hrest
          rw [Token.lineEnds, hresolve]
          exact (hshifted tokens w hw).trans f ctx hrest

end Filling

/-- **When a template may spell its line ends either way.**  Filled in, both spellings are the same
lines exactly when no line end is shifted, and they make the same blocks when every shifted line end
is harmless; neither can fail without the other. -/
theorem renderTemplate?_crlf {template : Text} (h : '\r' ∉ template) :
    (renderTemplate? f ctx template = none ∧ renderTemplate? f ctx template.crlf = none) ∨
      ∃ r r', renderTemplate? f ctx template = some r ∧
        renderTemplate? f ctx template.crlf = some r' ∧
        (Text.unixLines r'.text = Text.unixLines r.text ↔
          ∀ e ∈ Token.lineEnds f ctx none (Token.scan template), e.shifted = false) ∧
        ((∀ e ∈ Token.lineEnds f ctx none (Token.scan template), e.Harmless f ctx) →
          r'.blocks = r.blocks) := by
  have hliteral : ∀ token ∈ Token.scan template, ∀ t, token = .literal t → '\r' ∉ t := by
    rintro _ hmem t rfl hreturn
    exact h (Token.mem_of_literal_mem_scan hmem hreturn)
  have hrender : ∀ t, renderTemplate? f ctx t = ((Token.scan t).foldlM (Filling.take f ctx) {}).map
      fun s => ⟨s.text, formatBlocks s.text⟩ := fun t => by
    rw [renderTemplate?, render?, Option.map_map]
    rfl
  rw [hrender, hrender, Token.scan_crlf]
  rcases Filling.Respelled.init.foldlM f ctx hliteral with
    ⟨hnone, hnone'⟩ | ⟨r, r', w, w', hrun, hrun', hr, hr', hshifted⟩
  · exact .inl ⟨by rw [hnone]; rfl, by rw [hnone']; rfl⟩
  · rw [List.nil_append] at hr hr'
    rw [List.nil_append, List.nil_append, ← hr, ← hr'] at hshifted
    refine .inr ⟨_, _, by rw [hrun]; rfl, by rw [hrun']; rfl,
      ⟨fun heq => ?_, hshifted.lines⟩, hshifted.blocks⟩
    have hlength := hshifted.length
    rw [heq] at hlength
    have hcount := List.countP_eq_zero.1 (Nat.left_eq_add.1 hlength)
    exact fun e he => Bool.eq_false_iff.2 (hcount e he)

/-- A table, some line ends and a line of text. -/
def tableAndText (lineEnds : Text) : Text :=
  tablePlaceholder .pending ++ lineEnds ++ "Signed".toList

/-- Directly below a table, text hides the shifted line end. -/
theorem blocks_crlf_textBelow :
    '\r' ∉ tableAndText ['\n'] ∧
      ∃ r r', renderTemplate? {} (.onePending "Rest".toList) (tableAndText ['\n']) = some r ∧
        renderTemplate? {} (.onePending "Rest".toList) (tableAndText ['\n']).crlf = some r' ∧
        r'.blocks = r.blocks := by
  have hreturn : '\r' ∉ tableAndText ['\n'] := by decide
  have hends : ∀ e ∈ Token.lineEnds {} (.onePending "Rest".toList) none
      (Token.scan (tableAndText ['\n'])), e.token.isTable = true ∧ '~' ∉ e.text ∧
        e.behind {} (.onePending "Rest".toList) = "Signed".toList := by decide +kernel
  have hopens : Text.OpensLine "Signed".toList := ⟨'S', "igned".toList, rfl, rfl, by decide⟩
  have hsome : (renderTemplate? {} (.onePending "Rest".toList) (tableAndText ['\n'])).isSome := by
    decide +kernel
  rcases renderTemplate?_crlf {} (.onePending "Rest".toList) hreturn with
    ⟨hnone, _⟩ | ⟨r, r', hr, hr', _, hblocks⟩
  · rw [hnone] at hsome
    cases hsome
  · refine ⟨hreturn, r, r', hr, hr', hblocks fun e he _ => ?_⟩
    obtain ⟨htable, htilde, hbehind⟩ := hends e he
    exact ⟨htable, htilde, .inr (hbehind ▸ hopens)⟩

/-- **An empty line below a table becomes a block of its own** with the other line ends. -/
theorem blocks_crlf_emptyLine_ne :
    '\r' ∉ tableAndText ['\n', '\n'] ∧
      (renderTemplate? {} (.onePending "Rest".toList) (tableAndText ['\n', '\n']).crlf).map
          (·.blocks)
        ≠ (renderTemplate? {} (.onePending "Rest".toList) (tableAndText ['\n', '\n'])).map
          (·.blocks) := by decide +kernel

end Conveyance
