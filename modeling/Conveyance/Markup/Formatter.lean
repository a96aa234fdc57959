import Conveyance.Markup.Block
import Conveyance.Markup.Piece
import Conveyance.Markup.Row

/-!
# Markup/Formatter — light markup read into blocks

The formatter goes once over the pieces of a text and gives out blocks as they end:

* one to three `#` and a space at the start of a line make it a heading; alignment tags may stand
  before the marker, text may not;
* a blank line ends a paragraph or a table, and every further blank line is a block of its own;
* lines between bars form a table whose first row is the header;
* an alignment tag ends what is open and opens or closes a frame; **a closing tag that does not
  match the innermost frame does nothing** but mark its line.

`Formatter.step` takes one piece and returns the blocks it completes with the next state;
`formatBlocks` runs it over a whole text.
-/

namespace Conveyance

/-- What the characters of the current line belong to. -/
inductive LineMode where
  | normal
  | heading (level : Nat)
  | aligned (alignment : Alignment)
  deriving DecidableEq, Repr

/-- What the formatter keeps between two pieces. -/
structure Formatter where
  /-- The open alignment frames, the innermost first. -/
  frames : List Alignment := []
  mode : LineMode := .normal
  /-- The text of the current line since the last tag. -/
  line : Text := []
  /-- The current line carried a tag, so it is not a blank line even when it holds no text. -/
  lineHasTag : Bool := false
  /-- The current line carried text that is not blank. -/
  lineHasText : Bool := false
  /-- The lines of the open paragraph. -/
  paragraph : List Text := []
  /-- The rows of the open table. -/
  table : List Text := []
  /-- How many blank lines have followed one another. -/
  blankRun : Nat := 0
  deriving DecidableEq, Repr

/-- **A heading marker**: one to three `#` after spaces and tabs, before a space or a tab; with it
comes the heading's text.  Four or more `#` are plain text. -/
def headingMarker? (run : Text) : Option (Nat × Text) :=
  let isIndent := fun c => c == ' ' || c == '\t'
  let t := run.dropWhile isIndent
  let level := (t.takeWhile (· == '#')).length
  let rest := t.dropWhile (· == '#')
  if 1 ≤ level && level ≤ 3 && rest.head?.any isIndent then some (level, Text.trimStart rest)
  else none

namespace Formatter

/-! ## What is open -/

/-- The alignment of the innermost frame. -/
def alignment (s : Formatter) : Alignment := s.frames.head?.getD .left

/-- The mode of a line that is not a heading. -/
def enclosing (s : Formatter) : LineMode :=
  match s.frames with
  | [] => .normal
  | a :: _ => .aligned a

/-- A block in the current alignment. -/
def block (s : Formatter) (kind : BlockKind) (text : Text) : Block := ⟨kind, s.alignment, text⟩

/-- The open paragraph, if there is one. -/
def paragraphBlock (s : Formatter) : List Block :=
  match s.paragraph with
  | [] => []
  | lines => [s.block .paragraph (Text.join ['\n'] lines)]

/-- The open table, if there is one: its first row is the header. -/
def tableBlock (s : Formatter) : List Block :=
  match s.table with
  | [] => []
  | header :: rows =>
    [s.block (.table (Row.splitCells header) (rows.map Row.splitCells))
      (Text.join ['\n'] (header :: rows))]

/-! ## Ending what is open -/

/-- End the open paragraph and the open table. -/
def closeBuffers (s : Formatter) : List Block × Formatter :=
  (s.paragraphBlock ++ s.tableBlock, { s with paragraph := [], table := [] })

/-- Take a line that is not blank into the table or into the paragraph; the other one ends. -/
def takeLine (s : Formatter) (line : Text) : List Block × Formatter :=
  if Row.isRow line then
    (s.paragraphBlock,
      { s with
        paragraph := []
        table := if Row.isSeparator line then s.table else s.table ++ [line]
        blankRun := 0 })
  else
    (s.tableBlock, { s with table := [], paragraph := s.paragraph ++ [line], blankRun := 0 })

/-- End the heading that the current line is. -/
def closeHeading (s : Formatter) (level : Nat) : List Block × Formatter :=
  (s.paragraphBlock ++ s.tableBlock ++ [s.block (.heading level) (Text.trim s.line)],
    { s with paragraph := [], table := [], line := [], mode := s.enclosing, blankRun := 0 })

/-- End everything that is open where an alignment starts or ends. -/
def closeInline (s : Formatter) : List Block × Formatter :=
  match s.mode with
  | .heading level => s.closeHeading level
  | _ =>
    let taken := if Text.allBlank s.line then ([], { s with line := [] })
      else { s with line := [] }.takeLine s.line
    let closed := taken.2.closeBuffers
    (taken.1 ++ closed.1, closed.2)

/-! ## Steps -/

/-- A run of plain text: it opens a heading when it starts its line with a marker. -/
def takeText (s : Formatter) (run : Text) : Formatter :=
  let seen := { s with lineHasText := s.lineHasText || !Text.allBlank run }
  let opens := match s.mode with
    | .heading _ => none
    | _ => if !s.lineHasText && s.line.isEmpty then headingMarker? run else none
  match opens with
  | some (level, rest) => { seen with mode := .heading level, line := rest }
  | none => { seen with line := s.line ++ run }

/-- The end of a line that is not a heading. -/
def endLine (s : Formatter) : List Block × Formatter :=
  if Text.allBlank s.line then
    if s.lineHasTag then ([], { s with line := [] })
    else
      let closed := { s with line := [], blankRun := s.blankRun + 1 }.closeBuffers
      (closed.1 ++ if 0 < s.blankRun then [s.block .lineBreak []] else [], closed.2)
  else { s with line := [] }.takeLine s.line

/-- The end of a line. -/
def takeNewline (s : Formatter) : List Block × Formatter :=
  let ended := match s.mode with
    | .heading level => s.closeHeading level
    | _ => s.endLine
  (ended.1, { ended.2 with lineHasTag := false, lineHasText := false })

/-- An alignment tag. -/
def takeTag (s : Formatter) : Tag → List Block × Formatter
  | .opening a =>
    let closed := s.closeInline
    (closed.1,
      { closed.2 with frames := a :: closed.2.frames, mode := .aligned a, lineHasTag := true })
  | .closing a =>
    if s.frames.head? = some a then
      let closed := s.closeInline
      let popped := { closed.2 with frames := closed.2.frames.tail }
      (closed.1, { popped with mode := popped.enclosing, lineHasTag := true })
    else ([], { s with lineHasTag := true })

/-- **One piece**: the blocks that it completes, and what is open after it. -/
def step (s : Formatter) : Piece → List Block × Formatter
  | .newline => s.takeNewline
  | .tag tag => s.takeTag tag
  | .text run => ([], s.takeText run)

/-- The blocks that the end of the text completes; frames that are still open end with it. -/
def finish (s : Formatter) : List Block := s.closeInline.1

/-- The blocks of the pieces that follow a state. -/
def run (s : Formatter) : List Piece → List Block
  | [] => s.finish
  | piece :: rest => (s.step piece).1 ++ run (s.step piece).2 rest

end Formatter

/-- **The blocks of a text.** -/
def formatBlocks (t : Text) : List Block := ({} : Formatter).run (Text.pieces (Text.unixLines t))

end Conveyance
