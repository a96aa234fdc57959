import Conveyance.Markup.Formatter
import Conveyance.Proofs.Text.Ink

/-!
# Proofs/Markup/Reading — a text as tags and characters, each character in its alignment

The rule of alignment, without lines and blocks: `Text.signs` reads a text from left to right and
takes a tag wherever one starts, otherwise one character; `Sign.alignedInk` gives each character
that is not blank the innermost of the frames that are open there.  `signs_eq_flatMap_pieces` joins
this reading with the pieces that the formatter goes over: **a run of plain text hides no tag**.
-/

namespace Conveyance

/-- A tag of a text, or a character outside all tags. -/
inductive Sign where
  | tag (tag : Tag)
  | char (c : Char)
  deriving DecidableEq, Repr

/-- A text whose characters stand in an alignment each. -/
abbrev AlignedText := List (Char × Alignment)

/-- The alignment of the innermost open frame; outside all frames it is left. -/
def Alignment.innermost (frames : List Alignment) : Alignment := frames.head?.getD .left

/-- **The open frames after a tag**, the innermost first: an opening tag adds one, a closing tag
takes away the innermost one when it is of its alignment and does nothing otherwise. -/
def Tag.move (frames : List Alignment) : Tag → List Alignment
  | .opening a => a :: frames
  | .closing a => if frames.head? = some a then frames.tail else frames

/-- A tag moves nothing exactly when it closes a frame that is not the innermost. -/
theorem Tag.move_eq_self {g : Tag} {frames : List Alignment} :
    g.move frames = frames ↔ ∃ a, g = .closing a ∧ frames.head? ≠ some a := by
  cases g with
  | opening a =>
    refine ⟨fun h => ?_, fun ⟨b, h, _⟩ => by cases h⟩
    have := congrArg List.length h
    simp [move] at this
  | closing a =>
    rw [move]
    split
    · next h =>
      refine ⟨fun htail => ?_, fun ⟨b, hb, hne⟩ => ?_⟩
      · obtain ⟨rest, rfl⟩ := List.head?_eq_some_iff.1 h
        have := congrArg List.length htail
        simp at this
      · cases hb
        exact absurd h hne
    · next h => exact ⟨fun _ => ⟨a, rfl, h⟩, fun _ => rfl⟩

/-- A tag is read where it is written. -/
theorem Tag.read?_append (g : Tag) (rest : Text) : read? (g.text ++ rest) = some (g, rest) := by
  rcases g with (_ | _ | _) | (_ | _ | _) <;> rfl

/-- The ink of a text that stands in one alignment. -/
def Text.inkIn (a : Alignment) (t : Text) : AlignedText := (Text.ink t).map fun c => (c, a)

namespace Sign

/-- The ink of signs that stand inside the given frames. -/
def alignedInk (frames : List Alignment) : List Sign → AlignedText
  | [] => []
  | tag g :: signs => alignedInk (g.move frames) signs
  | char c :: signs => Text.inkIn (Alignment.innermost frames) [c] ++ alignedInk frames signs

end Sign

namespace Text

/-- **The signs of a text**: a tag wherever one starts, otherwise one character. -/
def signs : Text → List Sign
  | [] => []
  | c :: t =>
    match h : Tag.read? (c :: t) with
    | some (tag, rest) =>
      have := Tag.length_lt_of_read? h
      .tag tag :: signs rest
    | none => .char c :: signs t
termination_by t => t.length
decreasing_by
  · assumption
  · exact Nat.lt_succ_self t.length

/-- **The ink of a text**, each character in the alignment of the innermost frame around it. -/
def alignedInk (t : Text) : AlignedText := Sign.alignedInk [] (signs (unixLines t))

/-! ## Ink in one alignment -/

@[simp] theorem inkIn_nil (a : Alignment) : inkIn a [] = [] := rfl

@[simp] theorem inkIn_append (a : Alignment) (s t : Text) :
    inkIn a (s ++ t) = inkIn a s ++ inkIn a t := by
  rw [inkIn, ink_append, List.map_append, inkIn, inkIn]

@[simp] theorem inkIn_trim (a : Alignment) (t : Text) : inkIn a (trim t) = inkIn a t := by
  rw [inkIn, ink_trim, inkIn]

@[simp] theorem inkIn_newline (a : Alignment) : inkIn a ['\n'] = [] := rfl

theorem inkIn_eq_nil {a : Alignment} {t : Text} (h : allBlank t = true) : inkIn a t = [] := by
  rw [inkIn, ink_eq_nil.2 h, List.map_nil]

theorem inkIn_join_newline (a : Alignment) (lines : List Text) :
    inkIn a (join ['\n'] lines) = lines.flatMap (inkIn a) := by
  rw [inkIn, ink_join_newline, List.map_flatMap]
  rfl

/-! ## Signs and pieces -/

/-- Only a tilde starts a tag. -/
theorem read?_eq_none {c : Char} (h : c ≠ '~') (t : Text) : Tag.read? (c :: t) = none := by
  refine List.findSome?_eq_none_iff.2 fun tag _ => ?_
  cases tag <;> simp [Tag.text, stripPrefix?, Ne.symm h]

theorem signs_cons_of_read?_eq_none {c : Char} {t : Text} (h : Tag.read? (c :: t) = none) :
    signs (c :: t) = .char c :: signs t := by
  rw [signs]
  split
  · next h' => rw [h] at h'; cases h'
  · rfl

theorem signs_of_read? {t rest : Text} {tag : Tag} (h : Tag.read? t = some (tag, rest)) :
    signs t = .tag tag :: signs rest := by
  cases t with
  | nil => cases h
  | cons c t =>
    rw [signs]
    split
    · next h' => rw [h] at h'; cases h'; rfl
    · next h' => rw [h] at h'; cases h'

/-- Characters that a run goes over are read one by one. -/
theorem signs_append_of_inRun (t : Text) :
    ∀ w : Text, (∀ c ∈ w, Piece.inRun c = true) → signs (w ++ t) = w.map .char ++ signs t
  | [], _ => rfl
  | c :: w, h => by
      have hc : c ≠ '~' := by
        have := h c List.mem_cons_self
        simp only [Piece.inRun, Bool.and_eq_true, bne_iff_ne] at this
        exact this.2
      rw [List.cons_append, signs_cons_of_read?_eq_none (read?_eq_none hc _),
        signs_append_of_inRun t w fun d hd => h d (List.mem_cons_of_mem c hd)]
      rfl

end Text

/-- The signs of a piece. -/
def Piece.signs : Piece → List Sign
  | newline => [.char '\n']
  | tag g => [.tag g]
  | text run => run.map .char

/-- **A text reads as its pieces read.** -/
theorem Text.signs_eq_flatMap_pieces (t : Text) :
    signs t = (pieces t).flatMap Piece.signs := by
  fun_induction pieces t with
  | case1 => rw [signs]; rfl
  | case2 t ih =>
    rw [signs_cons_of_read?_eq_none (read?_eq_none (by decide) t), ih]
    rfl
  | case3 c t _ tag rest h _ ih =>
    rw [signs_of_read? h, ih]
    rfl
  | case4 c t _ h ih =>
    have hrun := signs_append_of_inRun (t.dropWhile Piece.inRun) (t.takeWhile Piece.inRun)
      fun d hd => List.all_eq_true.1 List.all_takeWhile d hd
    rw [List.takeWhile_append_dropWhile] at hrun
    rw [signs_cons_of_read?_eq_none h, hrun, ih]
    rfl

end Conveyance
