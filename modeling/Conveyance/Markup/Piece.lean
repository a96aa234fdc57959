import Conveyance.Markup.Tag

/-!
# Markup/Piece — a text as newlines, tags and runs of plain text

`pieces` cuts a text for the block formatter: a newline and an alignment tag are pieces of their
own, and everything else falls into runs.  **A run starts at any character and goes on to the next
newline or tilde**, so a tilde that starts no tag starts a run.  `unixLines` makes the two spellings
of a line end one.
-/

namespace Conveyance

/-- A piece of a text. -/
inductive Piece where
  | newline
  | tag (tag : Tag)
  | text (run : Text)
  deriving DecidableEq, Repr

namespace Piece

/-- The text a piece was cut from. -/
def source : Piece → Text
  | newline => ['\n']
  | tag t => t.text
  | text run => run

/-- A run of plain text goes on over this character. -/
def inRun (c : Char) : Bool := c != '\n' && c != '~'

end Piece

namespace Text

/-- Carriage return and newline together are one newline; a carriage return alone stays. -/
def unixLines : Text → Text
  | [] => []
  | '\r' :: '\n' :: t => '\n' :: unixLines t
  | c :: t => c :: unixLines t

theorem length_dropWhile_le (p : Char → Bool) (t : Text) : (t.dropWhile p).length ≤ t.length :=
  (List.dropWhile_suffix p).length_le

/-- The pieces of a text, in order. -/
def pieces : Text → List Piece
  | [] => []
  | c :: t =>
    if c = '\n' then .newline :: pieces t
    else match h : Tag.read? (c :: t) with
      | some (tag, rest) =>
        have := Tag.length_lt_of_read? h
        .tag tag :: pieces rest
      | none => .text (c :: t.takeWhile Piece.inRun) :: pieces (t.dropWhile Piece.inRun)
termination_by t => t.length
decreasing_by
  · simp
  · assumption
  · have := length_dropWhile_le Piece.inRun t
    simp only [List.length_cons]
    omega

/-- **Cutting loses nothing**: the pieces put together are the text. -/
theorem flatMap_source_pieces (t : Text) : (pieces t).flatMap Piece.source = t := by
  fun_induction pieces t with
  | case1 => rfl
  | case2 t ih => simp [Piece.source, ih]
  | case3 c t _ tag rest h _ ih =>
      rw [List.flatMap_cons, ih, Tag.eq_append_of_read? h]
      rfl
  | case4 c t _ _ ih =>
      rw [List.flatMap_cons, ih]
      simp [Piece.source, List.takeWhile_append_dropWhile]

end Text

end Conveyance
