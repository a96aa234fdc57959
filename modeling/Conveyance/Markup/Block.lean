import Conveyance.Markup.Tag

/-!
# Markup/Block — the blocks a document is made of

A `Block` is a heading, a paragraph, an empty line kept on purpose, or a table, with the alignment
it stands in.  Its `text` is the text it was read from, so that blocks can be shown before they are
laid out.
-/

namespace Conveyance

/-- What a block is. -/
inductive BlockKind where
  | heading (level : Nat)
  | paragraph
  | lineBreak
  | table (header : List Text) (rows : List (List Text))
  deriving DecidableEq, Repr

/-- A block of a document. -/
structure Block where
  kind : BlockKind
  alignment : Alignment
  /-- The lines of the block, joined by newlines. -/
  text : Text
  deriving DecidableEq, Repr

end Conveyance
