import Conveyance.Proofs.Markup.Coherent

/-!
# Proofs/Markup/Fragment — the parts of lines, without the blocks they end up in

A fragment is what a line holds between two places where the open frames change; a line that no tag
cuts is one fragment.  `Text.fragments` cuts a text into its fragments and knows neither paragraphs
nor tables, so **the order of the fragments is the order of the text**.  A fragment that starts its
line with a heading marker is a heading; a fragment that is drawn as a separator row is kept by no
block.
-/

namespace Conveyance

/-- A part of a line, between two line ends or tags that move the frames. -/
structure Fragment where
  alignment : Alignment
  /-- The level of the heading that the fragment is. -/
  level? : Option Nat
  /-- The text of the fragment, without the marker of a heading. -/
  text : Text
  deriving DecidableEq, Repr

namespace Fragment

/-- The number signs of a heading's marker. -/
def marker (f : Fragment) : Text := List.replicate (f.level?.getD 0) '#'

/-- The ink of a fragment, its marker included. -/
def ink (f : Fragment) : AlignedText := Text.inkIn f.alignment (f.marker ++ f.text)

/-- The fragment is a separator row. -/
def isSeparator (f : Fragment) : Bool :=
  f.level?.isNone && Row.isRow f.text && Row.isSeparator f.text

/-- **The ink of a fragment that blocks keep**: none of a separator row, all but the marker of a
heading, all of any other. -/
def kept (f : Fragment) : AlignedText :=
  if f.isSeparator then [] else Text.inkIn f.alignment f.text

end Fragment

/-- The fragment that is being read. -/
structure OpenFragment where
  /-- The open frames, the innermost first. -/
  frames : List Alignment := []
  level? : Option Nat := none
  text : Text := []
  /-- The line carried text that is not blank, perhaps in an earlier fragment. -/
  lineHasText : Bool := false
  deriving DecidableEq, Repr

namespace OpenFragment

/-- The fragment, ended here. -/
def close (o : OpenFragment) : Fragment := ⟨Alignment.innermost o.frames, o.level?, o.text⟩

/-- The marker that a run opens a heading with: it stands first in a fragment that no text precedes
on its line. -/
def opens? (o : OpenFragment) (run : Text) : Option (Nat × Text) :=
  if o.level?.isNone && !o.lineHasText && o.text.isEmpty then headingMarker? run else none

/-- The fragment with a run of plain text put to it. -/
def add (o : OpenFragment) (run : Text) : OpenFragment :=
  let seen := { o with lineHasText := o.lineHasText || !Text.allBlank run }
  match o.opens? run with
  | some (level, rest) => { seen with level? := some level, text := rest }
  | none => { seen with text := o.text ++ run }

/-- **One piece**: the fragment that it ends, if it ends one, and the fragment after it. -/
def step (o : OpenFragment) : Piece → List Fragment × OpenFragment
  | .newline => ([o.close], { frames := o.frames })
  | .tag g =>
    if g.move o.frames = o.frames then ([], o)
    else ([o.close], { frames := g.move o.frames, lineHasText := o.lineHasText })
  | .text run => ([], o.add run)

theorem step_tag_of_move_eq {o : OpenFragment} {g : Tag} (h : g.move o.frames = o.frames) :
    o.step (.tag g) = ([], o) := by
  rw [step, if_pos h]

theorem step_tag_of_move_ne {o : OpenFragment} {g : Tag} (h : g.move o.frames ≠ o.frames) :
    o.step (.tag g)
      = ([o.close], { frames := g.move o.frames, lineHasText := o.lineHasText }) := by
  rw [step, if_neg h]

/-- The fragments of the pieces that follow. -/
def fragments (o : OpenFragment) : List Piece → List Fragment
  | [] => [o.close]
  | p :: ps => (o.step p).1 ++ fragments (o.step p).2 ps

end OpenFragment

/-- **The fragments of a text.** -/
def Text.fragments (t : Text) : List Fragment :=
  ({} : OpenFragment).fragments (pieces (unixLines t))

/-! ## Fragments carry the whole text -/

namespace OpenFragment

theorem ink_close_init (frames : List Alignment) (b : Bool) :
    ({ frames := frames, lineHasText := b } : OpenFragment).close.ink = [] := rfl

/-- A run adds its own ink, whether it opens a heading or not. -/
theorem ink_close_add (o : OpenFragment) (run : Text) :
    (o.add run).close.ink = o.close.ink ++ Text.inkIn (Alignment.innermost o.frames) run := by
  rw [add]
  split
  · next level rest hopens =>
    rw [opens?] at hopens
    split at hopens
    · next hfirst =>
      simp only [Bool.and_eq_true, Option.isNone_iff_eq_none, List.isEmpty_iff] at hfirst
      have hink := (of_headingMarker?_eq_some hopens).2
      simp only [close, Fragment.ink, Fragment.marker, hfirst.1.1, hfirst.2, Text.inkIn,
        Text.ink_append, hink, Option.getD_some, Option.getD_none]
      rw [Text.ink, List.filter_replicate]
      rfl
    · cases hopens
  · simp only [close, Fragment.ink, Fragment.marker, Text.inkIn_append, List.append_assoc]

/-- A run is read in one alignment. -/
theorem alignedInk_run (frames : List Alignment) (signs : List Sign) :
    ∀ run : Text, Sign.alignedInk frames (run.map .char ++ signs)
      = Text.inkIn (Alignment.innermost frames) run ++ Sign.alignedInk frames signs
  | [] => rfl
  | c :: run => by
      rw [List.map_cons, List.cons_append, Sign.alignedInk, alignedInk_run frames signs run,
        ← List.append_assoc, ← Text.inkIn_append]
      rfl

theorem frames_add (o : OpenFragment) (run : Text) : (o.add run).frames = o.frames := by
  rw [add]
  split <;> rfl

/-- Reading a piece moves no ink: it goes into the fragments that end or stays in the open one. -/
theorem ink_step (o : OpenFragment) (p : Piece) (signs : List Sign) :
    o.close.ink ++ Sign.alignedInk o.frames (p.signs ++ signs)
      = (o.step p).1.flatMap Fragment.ink
        ++ ((o.step p).2.close.ink ++ Sign.alignedInk (o.step p).2.frames signs) := by
  cases p with
  | newline => simp [step, Piece.signs, Sign.alignedInk, ink_close_init]
  | tag g =>
    rw [step]
    split
    · next h => simp [Piece.signs, Sign.alignedInk, h]
    · simp [Piece.signs, Sign.alignedInk, ink_close_init]
  | text run =>
    rw [step, Piece.signs, alignedInk_run, ink_close_add, frames_add]
    simp

/-- **Cutting loses nothing**: the fragments' ink, put together, is the ink of the text. -/
theorem flatMap_ink_fragments :
    ∀ (ps : List Piece) (o : OpenFragment), (o.fragments ps).flatMap Fragment.ink
      = o.close.ink ++ Sign.alignedInk o.frames (ps.flatMap Piece.signs)
  | [], o => by simp [fragments, Sign.alignedInk]
  | p :: ps, o => by
      rw [fragments, List.flatMap_append, flatMap_ink_fragments ps, List.flatMap_cons, ink_step]

/-- What a step ends is the fragment that was open. -/
theorem eq_close_of_mem_step {o : OpenFragment} {p : Piece} {f : Fragment}
    (hf : f ∈ (o.step p).1) : f = o.close := by
  cases p with
  | newline => exact List.mem_singleton.1 hf
  | tag g =>
    rw [step] at hf
    split at hf
    · cases hf
    · exact List.mem_singleton.1 hf
  | text run => cases hf

/-- A heading is opened at one of three levels. -/
theorem level_le_of_opens? {o : OpenFragment} {run rest : Text} {level : Nat}
    (h : o.opens? run = some (level, rest)) : 1 ≤ level ∧ level ≤ 3 := by
  rw [opens?] at h
  split at h
  · exact (of_headingMarker?_eq_some h).1
  · cases h

/-- The fragment that is open has one of the three levels, or none, after every step. -/
theorem level_le_step {o : OpenFragment} (ho : ∀ n ∈ o.level?, 1 ≤ n ∧ n ≤ 3) (p : Piece) :
    ∀ n ∈ (o.step p).2.level?, 1 ≤ n ∧ n ≤ 3 := by
  intro n hn
  cases p with
  | newline => cases hn
  | tag g =>
    rw [step] at hn
    split at hn
    · exact ho n hn
    · cases hn
  | text run =>
    simp only [step, add] at hn
    split at hn
    · next level rest hopens =>
      cases hn
      exact level_le_of_opens? hopens
    · exact ho n hn

/-- **Every heading fragment has one of three levels.** -/
theorem level_le_of_mem_fragments :
    ∀ (ps : List Piece) (o : OpenFragment), (∀ n ∈ o.level?, 1 ≤ n ∧ n ≤ 3) →
      ∀ f ∈ o.fragments ps, ∀ n ∈ f.level?, 1 ≤ n ∧ n ≤ 3
  | [], o, ho, f, hf, n, hn => by
      rw [List.mem_singleton.1 hf] at hn
      exact ho n hn
  | p :: ps, o, ho, f, hf, n, hn => by
      rw [fragments, List.mem_append] at hf
      rcases hf with hf | hf
      · rw [eq_close_of_mem_step hf] at hn
        exact ho n hn
      · exact level_le_of_mem_fragments ps _ (level_le_step ho p) f hf n hn

end OpenFragment

/-- **The fragments of a text carry its ink**, in its order and alignment. -/
theorem Text.flatMap_ink_fragments (t : Text) :
    (fragments t).flatMap Fragment.ink = alignedInk t := by
  rw [fragments, OpenFragment.flatMap_ink_fragments, ← Text.signs_eq_flatMap_pieces]
  rfl

end Conveyance
