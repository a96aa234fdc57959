import Conveyance.Proofs.Markup.MarkedLine

/-!
# Proofs/Markup/HeadingLine — which lines are headings

A line is a heading when nothing but spaces, tabs and tags stands before its mark, and **a mark
behind hidden blanks opens no heading**: blanks that a closing tag leaves at the start of the line
count as text in front of the mark.  Conversely a heading comes from nowhere but such a mark
(`headings_of_framedLines`).
-/

namespace Conveyance

/-! ## Reading a line -/

theorem Piece.allBlank_of_signs {run : Text}
    (h : (Piece.text run).signs.all Sign.isInkless = true) : Text.allBlank run = true := by
  rw [Piece.signs, List.all_map] at h
  exact h

namespace OpenFragment

variable {o : OpenFragment}

theorem add_of_opens?_eq_none {run : Text} (h : o.opens? run = none) :
    o.add run
      = { o with text := o.text ++ run, lineHasText := o.lineHasText || !Text.allBlank run } := by
  rw [add, h]

/-- Nothing has been read of the line but tags and blanks. -/
structure Blank (o : OpenFragment) : Prop where
  level? : o.level? = none
  text : Text.allBlank o.text = true
  lineHasText : o.lineHasText = false

theorem Blank.init (frames : List Alignment) : Blank { frames := frames } := ⟨rfl, rfl, rfl⟩

/-- Blanks open no heading: they wait. -/
theorem add_of_allBlank {run : Text} (hrun : Text.allBlank run = true) :
    o.add run = { o with text := o.text ++ run } := by
  have hopens : o.opens? run = none := by
    rw [Option.eq_none_iff_forall_ne_some]
    intro opened hopens
    rw [opens?] at hopens
    split at hopens
    · rw [allBlank_of_headingMarker? hopens] at hrun
      cases hrun
    · cases hopens
  rw [add_of_opens?_eq_none hopens, hrun, Bool.not_true, Bool.or_false]

theorem Blank.add (h : o.Blank) {run : Text} (hrun : Text.allBlank run = true) :
    (o.add run).Blank := by
  have htext : Text.allBlank (o.text ++ run) = true := by
    rw [Text.allBlank, List.all_append, Bool.and_eq_true]
    exact ⟨h.text, hrun⟩
  rw [add_of_allBlank hrun]
  exact ⟨h.level?, htext, h.lineHasText⟩

/-- **Tags and blanks at the start of a line** are fragments without ink; what is left of them are
the frames they open and the blanks that wait. -/
theorem Blank.fragments_append (h : o.Blank) {ps : List Piece} (hps : .newline ∉ ps)
    (hinkless : (ps.flatMap Piece.signs).all Sign.isInkless = true) (qs : List Piece) :
    ∃ blanks : List Fragment,
      (∀ f ∈ blanks, f.level? = none ∧ Text.allBlank f.text = true) ∧
        o.fragments (ps ++ qs) = blanks ++ OpenFragment.fragments
          { frames := Sign.framesAfter o.frames (ps.flatMap Piece.signs)
            text := Sign.waiting o.frames o.text (ps.flatMap Piece.signs) } qs := by
  induction ps generalizing o with
  | nil =>
    obtain ⟨frames, level?, text, lineHasText⟩ := o
    obtain ⟨rfl, -, rfl⟩ := h
    exact ⟨[], by simp, rfl⟩
  | cons p ps ih =>
    obtain ⟨hp, hrest⟩ := not_or.1 (mt List.mem_cons.2 hps)
    rw [List.flatMap_cons, List.all_append, Bool.and_eq_true] at hinkless
    obtain ⟨hfirst, hinkless⟩ := hinkless
    rw [List.flatMap_cons, List.cons_append, fragments]
    rcases p with _ | g | run
    · exact absurd rfl hp
    · rw [Piece.signs, List.singleton_append, Sign.framesAfter, Sign.waiting]
      split
      · next hmove =>
        rw [step_tag_of_move_eq hmove, hmove]
        exact ih h hrest hinkless
      · next hmove =>
        obtain ⟨blanks, hblanks, hfragments⟩ :=
          ih (o := { frames := g.move o.frames }) (.init _) hrest hinkless
        refine ⟨o.close :: blanks, List.forall_mem_cons.2 ⟨⟨h.level?, h.text⟩, hblanks⟩, ?_⟩
        rw [step_tag_of_move_ne hmove, h.lineHasText, hfragments]
        rfl
    · have hrun : Text.allBlank run = true := Piece.allBlank_of_signs hfirst
      obtain ⟨blanks, hblanks, hfragments⟩ := ih (h.add hrun) hrest hinkless
      refine ⟨blanks, hblanks, ?_⟩
      rw [step, hfragments, add_of_allBlank hrun, Piece.signs, Sign.framesAfter_append,
        Sign.framesAfter_map_char, Sign.waiting_map_char_append]
      rfl

/-- **Behind text only what is open can be a heading**: it takes what stands before the next tag
that moves the frames. -/
theorem fragments_of_lineHasText (h : o.lineHasText = true) {ps : List Piece}
    (hps : .newline ∉ ps) :
    ∃ tail : List Fragment,
      o.fragments ps = ⟨Alignment.innermost o.frames, o.level?,
          o.text ++ Sign.reach o.frames (ps.flatMap Piece.signs)⟩ :: tail ∧
        (∀ f ∈ tail, f.level? = none) ∧
        tail.flatMap Fragment.ink
          = Sign.alignedInk o.frames (Sign.beyond o.frames (ps.flatMap Piece.signs)) := by
  induction ps generalizing o with
  | nil =>
    refine ⟨[], ?_, List.forall_mem_nil _, rfl⟩
    rw [fragments, close, List.flatMap_nil, Sign.reach, List.takeWhile_nil, Sign.plain,
      List.filterMap_nil, List.append_nil]
  | cons p ps ih =>
    obtain ⟨hp, hrest⟩ := not_or.1 (mt List.mem_cons.2 hps)
    rw [List.flatMap_cons, fragments]
    rcases p with _ | g | run
    · exact absurd rfl hp
    · rw [Piece.signs, List.singleton_append]
      by_cases hmove : g.move o.frames = o.frames
      · obtain ⟨hreach, hbeyond⟩ := Sign.cut_tag_of_move_eq hmove (ps.flatMap Piece.signs)
        rw [step_tag_of_move_eq hmove, List.nil_append, hreach, hbeyond]
        exact ih h hrest
      · obtain ⟨hreach, hbeyond⟩ := Sign.cut_tag_of_move_ne hmove (ps.flatMap Piece.signs)
        obtain ⟨tail, hfragments, hlevels, -⟩ :=
          ih (o := { frames := g.move o.frames, lineHasText := o.lineHasText }) h hrest
        rw [step_tag_of_move_ne hmove, hreach, hbeyond, List.append_nil]
        refine ⟨_, rfl, ?_, flatMap_ink_fragments ps _⟩
        rw [hfragments]
        exact List.forall_mem_cons.2 ⟨rfl, hlevels⟩
    · have hopens : o.opens? run = none := by
        rw [opens?, h, Bool.not_true, Bool.and_false, Bool.false_and]
        rfl
      have hadd : o.add run = { o with text := o.text ++ run } := by
        rw [add_of_opens?_eq_none hopens, h, Bool.true_or]
      obtain ⟨tail, hfragments, hlevels, hink⟩ :=
        ih (o := { o with text := o.text ++ run }) h hrest
      refine ⟨tail, ?_, hlevels, ?_⟩
      · rw [step, hadd, List.nil_append, hfragments, Piece.signs, Sign.reach_map_char_append,
          List.append_assoc]
      · rw [hink, Piece.signs, Sign.beyond_map_char_append]

theorem add_mark {frames : List Alignment} {indent : Text}
    (hindent : ∀ c ∈ indent, Text.isIndent c = true) (m : HeadingMark) (rest : Text) :
    ({ frames := frames } : OpenFragment).add (indent ++ (m.text ++ rest))
      = { frames := frames, level? := some m.level, text := Text.trimStart rest
          lineHasText := true } := by
  have hmark := headingMarker?_mark hindent m rest
  have hopens : ({ frames := frames } : OpenFragment).opens? (indent ++ (m.text ++ rest))
      = some (m.level, Text.trimStart rest) := hmark
  rw [add, hopens, allBlank_of_headingMarker? hmark]
  rfl

/-- **A mark behind characters opens no heading.** -/
theorem opens?_of_text_ne_nil (h : o.text ≠ []) (run : Text) : o.opens? run = none := by
  have hempty : o.text.isEmpty = false := by rw [List.isEmpty_eq_false_iff]; exact h
  rw [opens?, hempty, Bool.and_false]
  rfl

/-- A line that opens no heading with its first text opens none. -/
theorem levels_of_lineHasText (hlevel : o.level? = none) (h : o.lineHasText = true)
    {ps : List Piece} (hps : .newline ∉ ps) : ∀ f ∈ o.fragments ps, f.level? = none := by
  obtain ⟨tail, hfragments, htail, -⟩ := fragments_of_lineHasText h hps
  rw [hfragments]
  exact List.forall_mem_cons.2 ⟨hlevel, htail⟩

/-- The mark that a run opens a heading with is shown. -/
theorem showsMark_of_opens? {run body : Text} {level : Nat} (h : o.opens? run = some (level, body))
    (signs : List Sign) : Sign.ShowsMark o.frames o.text (run.map .char ++ signs) := by
  have hmark : headingMarker? run = some (level, body) := by
    rw [opens?] at h
    split at h
    · exact h
    · cases h
  have htext : o.text = [] := by
    by_contra hne
    rw [opens?_of_text_ne_nil hne] at h
    cases h
  obtain ⟨m, indent, rest, rfl, hindent, -⟩ := exists_mark_of_headingMarker? hmark
  exact ⟨[], indent, m, rest.map .char ++ signs, by simp, .nil, rfl, hindent, htext⟩

/-- **A heading starts with a mark that is shown.** -/
theorem Blank.showsMark (h : o.Blank) {ps : List Piece} (hps : .newline ∉ ps) {f : Fragment}
    (hf : f ∈ o.fragments ps) (hlevel : f.level? ≠ none) :
    Sign.ShowsMark o.frames o.text (ps.flatMap Piece.signs) := by
  induction ps generalizing o with
  | nil =>
    rw [List.mem_singleton.1 hf] at hlevel
    exact absurd h.level? hlevel
  | cons p ps ih =>
    obtain ⟨hp, hrest⟩ := not_or.1 (mt List.mem_cons.2 hps)
    rw [List.flatMap_cons]
    rw [fragments] at hf
    rcases p with _ | g | run
    · exact absurd rfl hp
    · by_cases hmove : g.move o.frames = o.frames
      · rw [step_tag_of_move_eq hmove] at hf
        exact (ih h hrest hf).tag_of_move_eq hmove
      · rw [step_tag_of_move_ne hmove, h.lineHasText, List.singleton_append, List.mem_cons] at hf
        rcases hf with rfl | hf
        · exact absurd h.level? hlevel
        · exact (ih (.init _) hrest hf).tag_of_move_ne hmove
    · rw [step, List.nil_append] at hf
      by_cases hblank : Text.allBlank run = true
      · have hshown := ih (h.add hblank) hrest hf
        rw [add_of_allBlank hblank] at hshown
        exact hshown.blanks hblank
      · cases hopens : o.opens? run with
        | none =>
          -- the run is text, so nothing behind it on the line can be a heading
          rw [add_of_opens?_eq_none hopens, Bool.eq_false_iff.2 hblank] at hf
          have hnone := levels_of_lineHasText (by exact h.level?) (by exact Bool.or_true _) hrest f hf
          exact absurd hnone hlevel
        | some opened => exact showsMark_of_opens? hopens _

end OpenFragment

/-! ## Lines with a mark -/

namespace FramedLine.Marked

variable {l : FramedLine} {front : List Sign} {indent : Text} {m : HeadingMark} {rest : List Sign}

/-- Up to the mark a line is fragments without ink, and the mark is read behind what waits. -/
theorem exists_fragments (h : l.Marked front indent m rest) :
    ∃ (blanks : List Fragment) (run : Text) (qs : List Piece),
      (∀ f ∈ blanks, f.level? = none ∧ Text.allBlank f.text = true) ∧ .newline ∉ qs ∧
        run.map Sign.char ++ qs.flatMap Piece.signs = rest ∧
        l.fragments = blanks ++ (OpenFragment.add
          { frames := Sign.framesAfter l.frames front, text := Sign.waiting l.frames [] front }
          (indent ++ (m.text ++ run))).fragments qs := by
  obtain ⟨ps, run, qs, hpieces, hps, hqs, rfl, hrest⟩ := h.exists_pieces
  obtain ⟨blanks, hblanks, hfragments⟩ := (OpenFragment.Blank.init l.frames).fragments_append hps
    h.inkless (.text (indent ++ (m.text ++ run)) :: qs)
  refine ⟨blanks, run, qs, hblanks, hqs, hrest, ?_⟩
  rw [FramedLine.fragments, hpieces, hfragments, OpenFragment.fragments, OpenFragment.step,
    List.nil_append]

/-- **The fragments of a line with a mark**: if the blanks in front of the mark are not hidden, one
of its fragments is a heading, and the ink behind the first tag that moves the frames is in the
fragments behind it. -/
theorem fragments (h : l.Marked front indent m rest)
    (hshown : ¬ Sign.Hides l.frames (front ++ indent.map .char)) :
    ∃ (blanks tail : List Fragment) (text : Text),
      l.fragments = blanks ++ ⟨Alignment.innermost (Sign.framesAfter l.frames front), some m.level,
          text⟩ :: tail ∧
        (∀ f ∈ blanks, f.level? = none ∧ Text.allBlank f.text = true) ∧
        (∀ f ∈ tail, f.level? = none) ∧
        Text.trim text = Text.trim (Sign.reach (Sign.framesAfter l.frames front) rest) ∧
        tail.flatMap Fragment.ink = Sign.alignedInk (Sign.framesAfter l.frames front)
          (Sign.beyond (Sign.framesAfter l.frames front) rest) := by
  have hwait : Sign.waiting l.frames [] front = [] := by
    by_contra hne
    exact hshown ((h.endsTagged.hides_iff l.frames indent).2 hne)
  obtain ⟨blanks, run, qs, hblanks, hqs, rfl, hfragments⟩ := h.exists_fragments
  rw [hwait, OpenFragment.add_mark h.isIndent] at hfragments
  generalize Sign.framesAfter l.frames front = frames at hfragments ⊢
  obtain ⟨tail, hopen, htail, hink⟩ := OpenFragment.fragments_of_lineHasText
    (o := { frames := frames, level? := some m.level, text := Text.trimStart run
            lineHasText := true }) rfl hqs
  refine ⟨blanks, tail, Text.trimStart run
    ++ Sign.reach frames (qs.flatMap Piece.signs), ?_, hblanks, htail, ?_, ?_⟩
  · rw [hfragments, hopen]
  · rw [Sign.reach_map_char_append, Text.trim_trimStart_append]
  · rw [hink, Sign.beyond_map_char_append]

/-- **A mark behind hidden blanks opens no heading.** -/
theorem levels_of_hides (h : l.Marked front indent m rest)
    (hhidden : Sign.Hides l.frames (front ++ indent.map .char)) :
    ∀ f ∈ l.fragments, f.level? = none := by
  have hwait := (h.endsTagged.hides_iff l.frames indent).1 hhidden
  obtain ⟨blanks, run, qs, hblanks, hqs, -, hfragments⟩ := h.exists_fragments
  have hink : Text.allBlank (indent ++ (m.text ++ run)) = false :=
    allBlank_of_headingMarker? (headingMarker?_mark h.isIndent m run)
  rw [OpenFragment.add_of_opens?_eq_none (OpenFragment.opens?_of_text_ne_nil hwait _), hink]
    at hfragments
  intro f hf
  rw [hfragments] at hf
  rcases List.mem_append.1 hf with hf | hf
  · exact (hblanks f hf).1
  · exact OpenFragment.levels_of_lineHasText rfl rfl hqs f hf

end FramedLine.Marked

/-! ## Which lines are headings -/

/-- A sign that may stand in front of a mark: a tag, a space or a tab. -/
def Sign.isLead : Sign → Bool
  | tag _ => true
  | char c => Text.isIndent c

theorem Sign.dropWhile_isInkless {signs : List Sign} (h : ∀ s ∈ signs.head?, s.isInkless = false) :
    signs.dropWhile isInkless = signs := by
  cases signs with
  | nil => rfl
  | cons s signs => rw [List.dropWhile_cons, h s rfl, if_neg Bool.false_ne_true]

theorem Text.signs_flatMap_source_append {lead : List Sign} (hlead : ∀ s ∈ lead, s.isLead = true)
    (t : Text) : signs (lead.flatMap Sign.source ++ t) = lead ++ signs t := by
  induction lead with
  | nil => rfl
  | cons s lead ih =>
    obtain ⟨hs, hrest⟩ := List.forall_mem_cons.1 hlead
    rw [List.flatMap_cons, List.append_assoc, List.cons_append]
    cases s with
    | tag g => rw [Sign.source, signs_of_read? (g.read?_append _), ih hrest]
    | char c =>
      have hc : c ≠ '~' := by
        rintro rfl
        cases hs
      rw [Sign.source, List.singleton_append, signs_cons_of_read?_eq_none (read?_eq_none hc _),
        ih hrest]

theorem filterMap_heading?_eq_nil {fs : List Fragment} (h : ∀ f ∈ fs, f.level? = none) :
    fs.filterMap Fragment.heading? = [] := by
  rw [List.filterMap_eq_nil_iff]
  intro f hf
  rw [Fragment.heading?, h f hf]
  rfl

namespace FramedLine

variable {l : FramedLine} {lead rest : List Sign}

theorem exists_marked (hnewline : '\n' ∉ l.text) (hlead : ∀ s ∈ lead, s.isLead = true)
    {m : HeadingMark} (h : Text.signs l.text = lead ++ (m.text.map .char ++ rest)) :
    ∃ (front : List Sign) (indent : Text), lead = front ++ indent.map .char ∧
      l.Marked front indent m rest := by
  obtain ⟨front, indent, rfl, hends⟩ := Sign.exists_endsTagged lead
  refine ⟨front, indent, rfl, hnewline, by rw [h, List.append_assoc], hends, ?_, fun c hc => ?_⟩
  · rw [List.all_eq_true]
    intro s hs
    have hs := hlead s (List.mem_append_left _ hs)
    cases s with
    | tag g => rfl
    | char c => exact Text.isBlank_of_isIndent hs
  · exact hlead (.char c) (List.mem_append_right _ (List.mem_map_of_mem hc))

/-- **What a mark makes a heading of**: what stands before the next tag that moves the frames. -/
theorem Marked.headings {front : List Sign} {indent : Text} {m : HeadingMark}
    (h : l.Marked front indent m rest)
    (hshown : ¬ Sign.Hides l.frames (front ++ indent.map .char)) :
    l.headings = [⟨.heading m.level, Alignment.innermost (Sign.framesAfter l.frames front),
      Text.trim (Sign.reach (Sign.framesAfter l.frames front) rest)⟩] := by
  obtain ⟨blanks, tail, text, hfragments, hblanks, htail, htrim, -⟩ := h.fragments hshown
  rw [FramedLine.headings, hfragments, List.filterMap_append, List.filterMap_cons,
    filterMap_heading?_eq_nil fun f hf => (hblanks f hf).1, filterMap_heading?_eq_nil htail,
    ← htrim]
  rfl

/-- **A mark behind tags, spaces and tabs**, and behind it no tilde: unless blanks are hidden, the
line is one heading. -/
theorem headings_of_mark (hnewline : '\n' ∉ l.text) (hlead : ∀ s ∈ lead, s.isLead = true)
    {m : HeadingMark} {t : Text} (ht : '~' ∉ t)
    (h : l.text = lead.flatMap Sign.source ++ (m.text ++ t)) :
    (¬ Sign.Hides l.frames lead → l.headings = [⟨.heading m.level,
        Alignment.innermost (Sign.framesAfter l.frames lead), Text.trim t⟩]) ∧
      (Sign.Hides l.frames lead → l.headings = []) := by
  have hsigns : Text.signs l.text = lead ++ (m.text.map .char ++ t.map .char) := by
    rw [h, Text.signs_flatMap_source_append hlead,
      Text.signs_append_of_inRun _ _ fun _ => m.inRun_of_mem_text, Text.signs_of_notMem ht]
  have hreach : ∀ frames, Sign.reach frames (t.map .char) = t := by
    intro frames
    rw [Sign.reach, List.takeWhile_eq_self_iff.2 (Sign.stays_map_char frames t),
      Sign.plain_map_char]
  obtain ⟨front, indent, rfl, hmarked⟩ := exists_marked hnewline hlead hsigns
  constructor
  · intro hshown
    rw [hmarked.headings hshown, hreach, Sign.framesAfter_append, Sign.framesAfter_map_char]
  · intro hhidden
    exact filterMap_heading?_eq_nil (hmarked.levels_of_hides hhidden)

/-- **Where a heading comes from, a mark stands.** -/
theorem exists_marked_of_headings_ne_nil (hnewline : '\n' ∉ l.text) (h : l.headings ≠ []) :
    ∃ (front : List Sign) (indent : Text) (m : HeadingMark) (rest : List Sign),
      l.Marked front indent m rest ∧ ¬ Sign.Hides l.frames (front ++ indent.map .char) := by
  obtain ⟨b, hb⟩ := List.exists_mem_of_ne_nil _ h
  obtain ⟨f, hf, hheading⟩ := List.mem_filterMap.1 hb
  have hlevel : f.level? ≠ none := by
    intro hnone
    rw [Fragment.heading?, hnone] at hheading
    cases hheading
  obtain ⟨front, indent, m, rest, hsigns, hends, hinkless, hindent, hwait⟩ :=
    (OpenFragment.Blank.init l.frames).showsMark (Text.newline_notMem_pieces hnewline) hf hlevel
  rw [← Text.signs_eq_flatMap_pieces] at hsigns
  exact ⟨front, indent, m, rest, ⟨hnewline, hsigns, hends, hinkless, hindent⟩,
    fun hhidden => (hends.hides_iff l.frames indent).1 hhidden hwait⟩

/-- **Other text in front opens no heading.** -/
theorem headings_of_noMark (hnewline : '\n' ∉ l.text) (h : Text.signs l.text = lead ++ rest)
    (hlead : lead.all Sign.isInkless = true) (hrest : ∀ s ∈ rest.head?, s.isInkless = false)
    (hmark : ∀ (m : HeadingMark) behind, rest ≠ m.text.map .char ++ behind) : l.headings = [] := by
  by_contra hne
  obtain ⟨front, indent, m, behind, hmarked, -⟩ := exists_marked_of_headings_ne_nil hnewline hne
  -- the signs before the first ink are the same in both readings of the line
  have hdrop : (Text.signs l.text).dropWhile Sign.isInkless = rest := by
    rw [h, List.dropWhile_append_of_pos (List.all_eq_true.1 hlead), Sign.dropWhile_isInkless hrest]
  have hdropMark : (Text.signs l.text).dropWhile Sign.isInkless = m.text.map .char ++ behind := by
    have hindent : ∀ s ∈ indent.map Sign.char, s.isInkless = true := by
      intro s hs
      obtain ⟨c, hc, rfl⟩ := List.mem_map.1 hs
      exact Text.isBlank_of_isIndent (hmarked.isIndent c hc)
    rw [hmarked.signs, List.dropWhile_append_of_pos (List.all_eq_true.1 hmarked.inkless),
      List.dropWhile_append_of_pos hindent, Sign.dropWhile_isInkless]
    obtain ⟨t, ht⟩ := m.exists_text_eq_cons
    rw [ht]
    rintro s ⟨⟩
    rfl
  exact hmark m behind (hdrop.symm.trans hdropMark)

end FramedLine

/-- **The heading blocks of a text are those of its lines, and a line is a heading when nothing but
tags, spaces and tabs stands before its mark and none of these blanks is hidden.**  The heading has
the level of the mark, the alignment of the frames open there, and the trimmed rest of the line for
its text.  A line whose first text is no mark holds no heading. -/
theorem headings_of_framedLines (t : Text) :
    (formatBlocks t).filter Block.isHeading = t.framedLines.flatMap FramedLine.headings ∧
      ∀ l ∈ t.framedLines,
        (∀ (lead : List Sign) (m : HeadingMark) (rest : Text),
          (∀ s ∈ lead, s.isLead = true) → '~' ∉ rest →
            l.text = lead.flatMap Sign.source ++ (m.text ++ rest) →
              (¬ Sign.Hides l.frames lead → l.headings = [⟨.heading m.level,
                  Alignment.innermost (Sign.framesAfter l.frames lead), Text.trim rest⟩]) ∧
                (Sign.Hides l.frames lead → l.headings = [])) ∧
          ∀ lead rest : List Sign, Text.signs l.text = lead ++ rest →
            lead.all Sign.isInkless = true → (∀ s ∈ rest.head?, s.isInkless = false) →
              (∀ (m : HeadingMark) behind, rest ≠ m.text.map .char ++ behind) →
                l.headings = [] := by
  refine ⟨headings_formatBlocks t, fun l hl => ?_⟩
  have hnewline := Text.newline_notMem_of_mem_framedLines hl
  exact ⟨fun lead m rest hlead hrest h => FramedLine.headings_of_mark hnewline hlead hrest h,
    fun lead rest h hlead hrest hmark => FramedLine.headings_of_noMark hnewline h hlead hrest hmark⟩

/-- The tag in front of the mark is no text; the second line starts with text. -/
theorem headings_of_framedLines_deed :
    let t : Text := "~center~\t## Deed\nNot # one".toList
    (formatBlocks t).filter Block.isHeading = [⟨.heading 2, .center, "Deed".toList⟩] := by
  intro t
  have hlines : Text.framedLines t
      = [⟨[], "~center~\t## Deed".toList⟩, ⟨[.center], "Not # one".toList⟩] := by decide +kernel
  have hshown : ¬ Sign.Hides [] [.tag (.opening .center), .char '\t'] := by
    have hends := (Sign.EndsTagged.cons [] (.opening .center) .nil).hides_iff [] ['\t']
    exact fun hhidden => hends.1 hhidden rfl
  obtain ⟨hall, heach⟩ := headings_of_framedLines t
  rw [hlines] at hall heach
  have hdeed := ((heach _ List.mem_cons_self).1 [.tag (.opening .center), .char '\t']
    ⟨2, ' ', by decide, by decide, rfl⟩ "Deed".toList (by decide) (by decide) (by decide)).1 hshown
  have hnotOne := (heach ⟨[.center], "Not # one".toList⟩ (by simp)).2 []
    ("Not # one".toList.map .char) (by decide +kernel) rfl (by rintro s ⟨⟩; rfl) (by
      intro m behind heq
      obtain ⟨u, hu⟩ := m.exists_text_eq_cons
      rw [hu] at heq
      cases heq)
  rw [hall, List.flatMap_cons, List.flatMap_singleton, hdeed, hnotOne]
  rfl

/-- Blanks that wait in front of a closing tag that closes nothing keep a mark from opening a
heading. -/
theorem formatBlocks_hiddenIndent :
    formatBlocks "  ~/center~# Title".toList = [⟨.paragraph, .left, "  # Title".toList⟩] ∧
      formatBlocks "~/center~  # Title".toList = [⟨.heading 1, .left, "Title".toList⟩] := by
  decide +kernel

end Conveyance
