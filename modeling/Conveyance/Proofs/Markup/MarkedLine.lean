import Conveyance.Proofs.Markup.FramedLine

/-!
# Proofs/Markup/MarkedLine — lines with the mark of a heading

A mark is one to three number signs and a space or a tab.  Tags and blanks may stand in front of it,
and what they leave is told by their signs alone: a tag that moves the frames takes the blanks
before it away, and a closing tag that closes no open frame does not, so **blanks in front of it
wait at the start of the line** (`Sign.waiting`, `Sign.Hides`).  A mark always starts a run, with
the spaces and tabs between it and the last tag (`FramedLine.Marked.exists_pieces`).
-/

namespace Conveyance

/-! ## Marks -/

/-- A space or a tab. -/
def Text.isIndent (c : Char) : Bool := c == ' ' || c == '\t'

theorem Text.isBlank_of_isIndent {c : Char} (h : isIndent c = true) : isBlank c = true :=
  isBlank_of_indent h

theorem Text.inRun_of_isIndent {c : Char} (h : isIndent c = true) : Piece.inRun c = true := by
  rcases Bool.or_eq_true_iff.1 h with h | h <;> rw [beq_iff_eq.1 h] <;> rfl

/-- **The mark of a heading**: one to three number signs and a space or a tab. -/
structure HeadingMark where
  level : Nat
  space : Char
  one_le_level : 1 ≤ level
  level_le_three : level ≤ 3
  isIndent_space : Text.isIndent space = true

namespace HeadingMark

/-- The mark as it is written. -/
def text (m : HeadingMark) : Text := List.replicate m.level '#' ++ [m.space]

theorem space_ne (m : HeadingMark) : m.space ≠ '#' := by
  intro h
  have hindent := m.isIndent_space
  rw [h] at hindent
  cases hindent

theorem inRun_of_mem_text (m : HeadingMark) {c : Char} (h : c ∈ m.text) : Piece.inRun c = true := by
  rcases List.mem_append.1 h with h | h
  · rw [List.eq_of_mem_replicate h]
    rfl
  · rw [List.mem_singleton.1 h]
    exact Text.inRun_of_isIndent m.isIndent_space

theorem exists_text_eq_cons (m : HeadingMark) : ∃ t, m.text = '#' :: t := by
  obtain ⟨n, hn⟩ := Nat.exists_eq_add_of_le' m.one_le_level
  rw [text, hn]
  exact ⟨_, rfl⟩

end HeadingMark

/-- What is looked at: the number signs behind spaces and tabs, and the character behind them. -/
theorem headingMarker?_eq (run : Text) :
    headingMarker? run =
      let t := run.dropWhile Text.isIndent
      let level := (t.takeWhile (· == '#')).length
      let rest := t.dropWhile (· == '#')
      if 1 ≤ level && level ≤ 3 && rest.head?.any Text.isIndent then
        some (level, Text.trimStart rest)
      else none := rfl

/-- **A mark is found behind spaces and tabs**, and what follows it is the text of the heading. -/
theorem headingMarker?_mark {indent : Text} (hindent : ∀ c ∈ indent, Text.isIndent c = true)
    (m : HeadingMark) (rest : Text) :
    headingMarker? (indent ++ (m.text ++ rest)) = some (m.level, Text.trimStart rest) := by
  have hblank := Text.isBlank_of_isIndent m.isIndent_space
  have hdrop : (indent ++ (m.text ++ rest)).dropWhile Text.isIndent = m.text ++ rest := by
    rw [List.dropWhile_append_of_pos hindent]
    obtain ⟨t, ht⟩ := m.exists_text_eq_cons
    rw [ht]
    rfl
  have hsigns : ∀ c ∈ List.replicate m.level '#', (c == '#') = true := fun c hc =>
    beq_iff_eq.2 (List.eq_of_mem_replicate hc)
  have hspace : (m.space == '#') = false := beq_eq_false_iff_ne.2 m.space_ne
  have htake : (m.text ++ rest).takeWhile (· == '#') = List.replicate m.level '#' := by
    rw [HeadingMark.text, List.append_assoc, List.takeWhile_append_of_pos hsigns,
      List.singleton_append, List.takeWhile_cons, hspace]
    exact List.append_nil _
  have hrest : (m.text ++ rest).dropWhile (· == '#') = m.space :: rest := by
    rw [HeadingMark.text, List.append_assoc, List.dropWhile_append_of_pos hsigns,
      List.singleton_append, List.dropWhile_cons, hspace]
    rfl
  have htrim : Text.trimStart (m.space :: rest) = Text.trimStart rest := by
    rw [Text.trimStart, List.dropWhile_cons, hblank, if_pos rfl, Text.trimStart]
  rw [headingMarker?_eq]
  simp [hdrop, htake, hrest, htrim, m.one_le_level, m.level_le_three, m.isIndent_space]

theorem exists_mark_of_headingMarker? {run body : Text} {level : Nat}
    (h : headingMarker? run = some (level, body)) :
    ∃ (m : HeadingMark) (indent rest : Text), run = indent ++ (m.text ++ rest) ∧
      (∀ c ∈ indent, Text.isIndent c = true) ∧ m.level = level := by
  rw [headingMarker?_eq] at h
  dsimp only at h
  split at h
  · next hmark =>
    simp only [Bool.and_eq_true, decide_eq_true_eq] at hmark
    obtain ⟨⟨hone, hthree⟩, hspace⟩ := hmark
    obtain ⟨c, hc, hindent⟩ := (Option.any_eq_true _ _).1 hspace
    obtain ⟨rest, hrest⟩ := List.head?_eq_some_iff.1 hc
    refine ⟨⟨_, c, hone, hthree, hindent⟩, run.takeWhile Text.isIndent, rest, ?_,
      fun d hd => List.all_eq_true.1 List.all_takeWhile d hd, (Prod.mk.inj (Option.some.inj h)).1⟩
    have hsigns := List.eq_replicate_of_mem
      (l := (run.dropWhile Text.isIndent).takeWhile (· == '#'))
      fun d hd => beq_iff_eq.1 (List.all_eq_true.1 List.all_takeWhile d hd)
    rw [HeadingMark.text, ← hsigns, List.append_assoc, List.singleton_append, ← hrest,
      List.takeWhile_append_dropWhile, List.takeWhile_append_dropWhile]
  · cases h

/-- Blanks taken from the start are no loss to a trimmed text. -/
theorem Text.trim_trimStart_append (t u : Text) : trim (trimStart t ++ u) = trim (t ++ u) := by
  induction t with
  | nil => rfl
  | cons c t ih =>
    by_cases hc : isBlank c = true
    · rw [trimStart_of_blank hc, ih, List.cons_append, trim, trim, trimStart_of_blank hc]
    · rw [trimStart_of_head (Bool.eq_false_iff.2 hc)]

/-! ## Signs of a line -/

namespace Sign

/-- A sign that leaves the given frames as they are. -/
def stays (frames : List Alignment) : Sign → Bool
  | tag g => g.move frames = frames
  | char _ => true

/-- **The text up to the next tag that moves the frames.** -/
def reach (frames : List Alignment) (signs : List Sign) : Text :=
  plain (signs.takeWhile (stays frames))

/-- The signs from the next tag on that moves the frames. -/
def beyond (frames : List Alignment) (signs : List Sign) : List Sign :=
  signs.dropWhile (stays frames)

theorem stays_map_char (frames : List Alignment) (t : Text) :
    ∀ s ∈ t.map char, stays frames s = true := by
  intro s hs
  obtain ⟨c, -, rfl⟩ := List.mem_map.1 hs
  rfl

theorem reach_map_char_append (frames : List Alignment) (t : Text) (signs : List Sign) :
    reach frames (t.map char ++ signs) = t ++ reach frames signs := by
  rw [reach, List.takeWhile_append_of_pos (stays_map_char frames t), plain_append, plain_map_char,
    reach]

theorem beyond_map_char_append (frames : List Alignment) (t : Text) (signs : List Sign) :
    beyond frames (t.map char ++ signs) = beyond frames signs :=
  List.dropWhile_append_of_pos (stays_map_char frames t)

/-- A tag that moves no frame is passed over. -/
theorem cut_tag_of_move_eq {g : Tag} {frames : List Alignment} (h : g.move frames = frames)
    (signs : List Sign) :
    reach frames (tag g :: signs) = reach frames signs ∧
      beyond frames (tag g :: signs) = beyond frames signs := by
  have hstays : stays frames (tag g) = true := decide_eq_true h
  rw [reach, beyond, List.takeWhile_cons_of_pos hstays, List.dropWhile_cons_of_pos hstays]
  exact ⟨rfl, rfl⟩

theorem cut_tag_of_move_ne {g : Tag} {frames : List Alignment} (h : g.move frames ≠ frames)
    (signs : List Sign) :
    reach frames (tag g :: signs) = [] ∧ beyond frames (tag g :: signs) = tag g :: signs := by
  have hstays : ¬ stays frames (tag g) = true := mt of_decide_eq_true h
  rw [reach, beyond, List.takeWhile_cons_of_neg hstays, List.dropWhile_cons_of_neg hstays]
  exact ⟨rfl, rfl⟩

/-- **The ink of signs is the ink of the text in reach and that of the signs beyond**, the former in
one alignment. -/
theorem alignedInk_eq_reach_append (frames : List Alignment) (signs : List Sign) :
    alignedInk frames signs
      = Text.inkIn (Alignment.innermost frames) (reach frames signs)
        ++ alignedInk frames (beyond frames signs) := by
  induction signs with
  | nil => rfl
  | cons s signs ih =>
    cases s with
    | tag g =>
      by_cases hmove : g.move frames = frames
      · obtain ⟨hreach, hbeyond⟩ := cut_tag_of_move_eq hmove signs
        rw [hreach, hbeyond, ← ih, alignedInk, hmove]
      · obtain ⟨hreach, hbeyond⟩ := cut_tag_of_move_ne hmove signs
        rw [hreach, hbeyond]
        rfl
    | char c =>
      have hreach := reach_map_char_append frames [c] signs
      have hbeyond := beyond_map_char_append frames [c] signs
      rw [List.map_singleton, List.singleton_append] at hreach hbeyond
      rw [hreach, hbeyond, Text.inkIn_append, List.append_assoc, ← ih, alignedInk]

/-- **What waits behind signs**: the characters since the last tag that moved the frames, behind
those that waited before. -/
def waiting (frames : List Alignment) (held : Text) : List Sign → Text
  | [] => held
  | tag g :: signs =>
    if g.move frames = frames then waiting frames held signs else waiting (g.move frames) [] signs
  | char c :: signs => waiting frames (held ++ [c]) signs

/-- Signs that end with a tag, if there are any. -/
inductive EndsTagged : List Sign → Prop
  | nil : EndsTagged []
  | cons (t : Text) (g : Tag) {signs : List Sign} (h : EndsTagged signs) :
    EndsTagged (t.map char ++ tag g :: signs)

theorem EndsTagged.map_char_append {t : Text} {signs : List Sign} (h : EndsTagged signs)
    (ht : signs = [] → t = []) : EndsTagged (t.map char ++ signs) := by
  cases h with
  | nil =>
    rw [ht rfl]
    exact .nil
  | cons u g h =>
    rw [← List.append_assoc, ← List.map_append]
    exact .cons (t ++ u) g h

/-- Signs up to the last tag, and the characters behind it. -/
theorem exists_endsTagged (signs : List Sign) :
    ∃ (front : List Sign) (t : Text), signs = front ++ t.map char ∧ EndsTagged front := by
  induction signs with
  | nil => exact ⟨[], [], rfl, .nil⟩
  | cons s signs ih =>
    obtain ⟨front, t, rfl, hfront⟩ := ih
    cases s with
    | tag g => exact ⟨tag g :: front, t, rfl, .cons [] g hfront⟩
    | char c =>
      cases hfront with
      | nil => exact ⟨[], c :: t, rfl, .nil⟩
      | cons u g hfront => exact ⟨_, t, rfl, .cons (c :: u) g hfront⟩

/-- Behind a character of such signs there is a tag. -/
theorem EndsTagged.exists_tag {before behind : List Sign} {c : Char}
    (h : EndsTagged (before ++ char c :: behind)) : ∃ g, tag g ∈ behind := by
  generalize hsigns : before ++ char c :: behind = signs at h
  induction h generalizing before with
  | nil => cases (List.append_eq_nil_iff.1 hsigns).2
  | cons t g h ih =>
    rcases List.append_eq_append_iff.1 hsigns with ⟨x, -, hx⟩ | ⟨x, -, hx⟩
    · have hmem : tag g ∈ char c :: behind := hx ▸ by simp
      exact ⟨g, by simpa using hmem⟩
    · rcases x with _ | ⟨s, x⟩
      · cases hx
      · exact ih (List.cons.inj hx).2.symm

theorem waiting_map_char_append (frames : List Alignment) (held t : Text) (signs : List Sign) :
    waiting frames held (t.map char ++ signs) = waiting frames (held ++ t) signs := by
  induction t generalizing held with
  | nil => rw [List.map_nil, List.nil_append, List.append_nil]
  | cons c t ih =>
    rw [List.map_cons, List.cons_append, waiting, ih, List.append_assoc, List.singleton_append]

/-- Something waits when characters have been read since the last tag that moved the frames. -/
theorem waiting_ne_nil {frames : List Alignment} {held : Text} {signs : List Sign} :
    waiting frames held signs ≠ [] ↔
      (held ≠ [] ∧ ∀ g, tag g ∈ signs → g.move frames = frames) ∨
        ∃ before c behind, signs = before ++ char c :: behind ∧
          ∀ g, tag g ∈ behind → g.move (framesAfter frames before) = framesAfter frames before := by
  induction signs generalizing frames held with
  | nil => simp [waiting]
  | cons s signs ih =>
    have hsplit : (∃ before c behind, s :: signs = before ++ char c :: behind ∧
          ∀ g, tag g ∈ behind → g.move (framesAfter frames before) = framesAfter frames before) ↔
        (∃ c, s = char c ∧ ∀ g, tag g ∈ signs → g.move frames = frames) ∨
          ∃ before c behind, signs = before ++ char c :: behind ∧
            ∀ g, tag g ∈ behind → g.move (framesAfter frames (s :: before))
              = framesAfter frames (s :: before) := by
      constructor
      · rintro ⟨before, c, behind, hsigns, hstay⟩
        rcases List.cons_eq_append_iff.1 hsigns with ⟨rfl, hs⟩ | ⟨before, rfl, rfl⟩
        · cases hs
          exact .inl ⟨c, rfl, hstay⟩
        · exact .inr ⟨before, c, behind, rfl, hstay⟩
      · rintro (⟨c, rfl, hstay⟩ | ⟨before, c, behind, rfl, hstay⟩)
        · exact ⟨[], c, signs, rfl, hstay⟩
        · exact ⟨s :: before, c, behind, rfl, hstay⟩
    rw [hsplit]
    cases s with
    | tag g =>
      rw [waiting]
      split
      · next hmove => simp [ih, framesAfter, hmove]
      · next hmove => simp [ih, framesAfter, hmove]
    | char c =>
      have hheld : held ++ [c] ≠ [] := by simp
      rw [waiting, ih]
      constructor
      · rintro (⟨-, hstay⟩ | hbefore)
        · exact .inr (.inl ⟨c, rfl, hstay⟩)
        · exact .inr (.inr hbefore)
      · rintro (⟨-, hstay⟩ | ⟨-, -, hstay⟩ | hbefore)
        · exact .inl ⟨hheld, fun g hg => hstay g (List.mem_cons_of_mem _ hg)⟩
        · exact .inl ⟨hheld, hstay⟩
        · exact .inr hbefore

/-- **Blanks are hidden** when a tag stands behind them and all tags there close frames that are not
open: such a tag takes nothing away, and the blanks stay at the start of the line. -/
def Hides (frames : List Alignment) (signs : List Sign) : Prop :=
  ∃ before c behind, signs = before ++ char c :: behind ∧ (∃ g, tag g ∈ behind) ∧
    ∀ g, tag g ∈ behind → g.move (framesAfter frames before) = framesAfter frames before

/-- What is hidden is what waits at the last tag. -/
theorem EndsTagged.hides_iff {front : List Sign} (h : EndsTagged front) (frames : List Alignment)
    (t : Text) : Hides frames (front ++ t.map char) ↔ waiting frames [] front ≠ [] := by
  rw [waiting_ne_nil]
  constructor
  · rintro ⟨before, c, behind, hsigns, ⟨g, hg⟩, hstay⟩
    right
    rcases List.append_eq_append_iff.1 hsigns with ⟨x, -, hx⟩ | ⟨x, rfl, hx⟩
    · have hmem : tag g ∈ t.map char := hx ▸ by simp [hg]
      simp at hmem
    · rcases x with _ | ⟨s, x⟩
      · rw [List.nil_append] at hx
        have hmem : tag g ∈ t.map char := hx ▸ List.mem_cons_of_mem _ hg
        simp at hmem
      · obtain ⟨rfl, rfl⟩ := List.cons.inj hx
        exact ⟨before, c, x, rfl, fun g' hg' => hstay g' (List.mem_append_left _ hg')⟩
  · rintro (⟨hne, -⟩ | ⟨before, c, behind, rfl, hstay⟩)
    · exact absurd rfl hne
    · refine ⟨before, c, behind ++ t.map char, by simp, ?_, fun g hg => hstay g ?_⟩
      · obtain ⟨g, hg⟩ := h.exists_tag
        exact ⟨g, List.mem_append_left _ hg⟩
      · simpa using hg

/-- **A mark is shown** behind text that waits: tags and blanks stand in front of it, behind the
last tag only spaces and tabs, and there nothing waits any more. -/
def ShowsMark (frames : List Alignment) (held : Text) (signs : List Sign) : Prop :=
  ∃ (front : List Sign) (indent : Text) (m : HeadingMark) (rest : List Sign),
    signs = front ++ (indent.map char ++ (m.text.map char ++ rest)) ∧ EndsTagged front ∧
      front.all isInkless = true ∧ (∀ c ∈ indent, Text.isIndent c = true) ∧
      waiting frames held front = []

namespace ShowsMark

variable {frames : List Alignment} {held : Text} {signs : List Sign} {g : Tag}

theorem tag_of_move_eq (hmove : g.move frames = frames) (h : ShowsMark frames held signs) :
    ShowsMark frames held (tag g :: signs) := by
  obtain ⟨front, indent, m, rest, rfl, hends, hinkless, hindent, hwait⟩ := h
  refine ⟨tag g :: front, indent, m, rest, rfl, .cons [] g hends, hinkless, hindent, ?_⟩
  rw [waiting, if_pos hmove, hwait]

theorem tag_of_move_ne (hmove : g.move frames ≠ frames) (h : ShowsMark (g.move frames) [] signs) :
    ShowsMark frames held (tag g :: signs) := by
  obtain ⟨front, indent, m, rest, rfl, hends, hinkless, hindent, hwait⟩ := h
  refine ⟨tag g :: front, indent, m, rest, rfl, .cons [] g hends, hinkless, hindent, ?_⟩
  rw [waiting, if_neg hmove, hwait]

theorem blanks {t : Text} (ht : Text.allBlank t = true) (h : ShowsMark frames (held ++ t) signs) :
    ShowsMark frames held (t.map char ++ signs) := by
  obtain ⟨front, indent, m, rest, rfl, hends, hinkless, hindent, hwait⟩ := h
  have hblanks : (t.map char).all isInkless = true := by
    rw [List.all_map]
    exact ht
  refine ⟨t.map char ++ front, indent, m, rest, (List.append_assoc ..).symm, ?_, ?_, hindent, ?_⟩
  · refine hends.map_char_append fun hfront => ?_
    rw [hfront] at hwait
    exact (List.append_eq_nil_iff.1 hwait).2
  · rw [List.all_append, hblanks, hinkless, Bool.and_self]
  · rw [waiting_map_char_append, hwait]

end ShowsMark

end Sign

/-! ## Pieces of a line -/

namespace Text

/-- A run goes on over its characters. -/
theorem pieces_append_of_inRun {w : Text} (hne : w ≠ []) (hw : ∀ c ∈ w, Piece.inRun c = true)
    (t : Text) :
    pieces (w ++ t) = .text (w ++ t.takeWhile Piece.inRun) :: pieces (t.dropWhile Piece.inRun) := by
  rcases w with _ | ⟨c, w⟩
  · exact absurd rfl hne
  · have hc := hw c List.mem_cons_self
    simp only [Piece.inRun, Bool.and_eq_true, bne_iff_ne] at hc
    have hw : ∀ d ∈ w, Piece.inRun d = true := fun d hd => hw d (List.mem_cons_of_mem c hd)
    rw [List.cons_append, pieces_cons_of_read?_eq_none hc.1 (read?_eq_none hc.2 _),
      List.takeWhile_append_of_pos hw, List.dropWhile_append_of_pos hw]
    rfl

/-- Characters in front of a tag are a run, if there are any. -/
theorem exists_pieces_append_tag {w : Text} (hw : ∀ c ∈ w, Piece.inRun c = true) (g : Tag) :
    ∃ ps : List Piece, .newline ∉ ps ∧ ps.flatMap Piece.signs = w.map .char ++ [.tag g] ∧
      ∀ t, pieces (w ++ (g.text ++ t)) = ps ++ pieces t := by
  have hpieces : ∀ t, pieces (g.text ++ t) = .tag g :: pieces t := fun t =>
    pieces_of_read? (g.read?_append t)
  have hcut : ∀ t, (g.text ++ t).takeWhile Piece.inRun = [] ∧
      (g.text ++ t).dropWhile Piece.inRun = g.text ++ t := by
    intro t
    cases g <;> exact ⟨rfl, rfl⟩
  by_cases hne : w = []
  · subst hne
    exact ⟨[.tag g], by simp, rfl, hpieces⟩
  · refine ⟨[.text w, .tag g], by simp, rfl, fun t => ?_⟩
    rw [pieces_append_of_inRun hne hw, (hcut t).1, (hcut t).2, hpieces, List.append_nil]
    rfl

/-- **A tag cuts a line in two**: the pieces of signs that end with a tag do not depend on what
follows. -/
theorem exists_pieces_append {front : List Sign} (h : Sign.EndsTagged front)
    (hfront : ∀ c, .char c ∈ front → Piece.inRun c = true) :
    ∃ ps : List Piece, .newline ∉ ps ∧ ps.flatMap Piece.signs = front ∧
      ∀ t, pieces (front.flatMap Sign.source ++ t) = ps ++ pieces t := by
  induction h with
  | nil => exact ⟨[], List.not_mem_nil, rfl, fun t => rfl⟩
  | @cons w g front h ih =>
    obtain ⟨ps, hps, hsigns, hpieces⟩ := ih fun c hc => hfront c (by simp [hc])
    obtain ⟨first, hfirst, hfirstSigns, hfirstPieces⟩ :=
      exists_pieces_append_tag (w := w) (fun c hc => hfront c (by simp [hc])) g
    have hsource : (w.map Sign.char).flatMap Sign.source = w := by
      rw [List.flatMap_map]
      exact List.flatMap_singleton' w
    refine ⟨first ++ ps, by simp [hps, hfirst], ?_, fun t => ?_⟩
    · rw [List.flatMap_append, hfirstSigns, hsigns, List.append_assoc, List.singleton_append]
    · rw [List.flatMap_append, hsource, List.flatMap_cons, List.append_assoc, List.append_assoc,
        Sign.source, hfirstPieces, hpieces, List.append_assoc]

end Text

/-- **A line with a mark**: in front of it stand tags and blanks, behind the last tag only spaces
and tabs. -/
structure FramedLine.Marked (l : FramedLine) (front : List Sign) (indent : Text) (m : HeadingMark)
    (rest : List Sign) : Prop where
  newline : '\n' ∉ l.text
  signs : Text.signs l.text = front ++ (indent.map .char ++ (m.text.map .char ++ rest))
  endsTagged : Sign.EndsTagged front
  inkless : front.all Sign.isInkless = true
  isIndent : ∀ c ∈ indent, Text.isIndent c = true

/-- **The mark starts a run**, with the spaces and tabs in front of it. -/
theorem FramedLine.Marked.exists_pieces {l : FramedLine} {front : List Sign} {indent : Text}
    {m : HeadingMark} {rest : List Sign} (h : l.Marked front indent m rest) :
    ∃ (ps : List Piece) (run : Text) (qs : List Piece),
      Text.pieces l.text = ps ++ .text (indent ++ (m.text ++ run)) :: qs ∧
        .newline ∉ ps ∧ .newline ∉ qs ∧ ps.flatMap Piece.signs = front ∧
        run.map Sign.char ++ qs.flatMap Piece.signs = rest := by
  have htext : l.text = front.flatMap Sign.source
      ++ ((indent ++ m.text) ++ rest.flatMap Sign.source) := by
    rw [← Text.flatMap_source_signs l.text, h.signs]
    simp [Sign.flatMap_source_map_char]
  have hfront : ∀ c, .char c ∈ front → Piece.inRun c = true := by
    intro c hc
    have hblank : Text.isBlank c = true := List.all_eq_true.1 h.inkless _ hc
    have hmem : c ∈ l.text := by
      rw [htext]
      exact List.mem_append_left _ (List.mem_flatMap_of_mem hc (List.mem_singleton_self c))
    rw [Piece.inRun, Bool.and_eq_true, bne_iff_ne, bne_iff_ne]
    refine ⟨fun hc => h.newline (hc ▸ hmem), ?_⟩
    rintro rfl
    cases hblank
  have hmark : ∀ c ∈ indent ++ m.text, Piece.inRun c = true := by
    intro c hc
    rcases List.mem_append.1 hc with hc | hc
    · exact Text.inRun_of_isIndent (h.isIndent c hc)
    · exact m.inRun_of_mem_text hc
  have hne : indent ++ m.text ≠ [] := by simp [HeadingMark.text]
  obtain ⟨ps, hps, hsigns, hpieces⟩ := Text.exists_pieces_append h.endsTagged hfront
  have hcut : Text.pieces l.text = ps ++ .text (indent ++ (m.text
      ++ (rest.flatMap Sign.source).takeWhile Piece.inRun))
      :: Text.pieces ((rest.flatMap Sign.source).dropWhile Piece.inRun) := by
    rw [htext, hpieces, Text.pieces_append_of_inRun hne hmark, List.append_assoc]
  refine ⟨ps, _, _, hcut, hps, ?_, hsigns, ?_⟩
  · have hnewline := Text.newline_notMem_pieces h.newline
    rw [hcut] at hnewline
    exact fun hmem => hnewline (by simp [hmem])
  · have hcancel := h.signs
    rw [Text.signs_eq_flatMap_pieces, hcut] at hcancel
    simpa [Piece.signs, hsigns] using hcancel

end Conveyance
