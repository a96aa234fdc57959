import Conveyance.Markup.Block
import Conveyance.Number.Single
import Conveyance.Records
import Conveyance.Typst.Fragment

/-!
# Typst/Document — blocks laid out as a Typst document

`Typst.document` writes the page set-up, with a letterhead or with room left for printed paper, and
then the blocks in order.  The image of a letterhead travels with the source as an `Attachment` and
is referred to by name.  **A table is as wide as its widest row**, and shorter rows are filled up
with empty cells.
-/

namespace Conveyance

/-- The measures of a page, in centimetres, and of its type, in points. -/
structure Layout where
  /-- Room left at the top for printed paper. -/
  blankTop : Single := .ofNat 5
  letterheadTop : Single := .ofNat 4
  bottom : Single := .ofNat 2
  side : Single := .ofNat 2
  fontSize : Single := .ofNat 11
  deriving DecidableEq

/-- A file that the source refers to by name. -/
structure Attachment where
  name : Text
  bytes : List UInt8
  deriving DecidableEq

/-- What stands at the top of a page. -/
inductive Letterhead where
  | blank
  | image (image : Attachment)
  /-- Without an image, the company's name and how to reach it are printed. -/
  | lines (company : Company)
  deriving DecidableEq

/-- A document for the compiler. -/
structure TypstDocument where
  source : Text
  attachments : List Attachment
  deriving DecidableEq

namespace Typst

/-! ## The top of the page -/

/-- A length in centimetres. -/
def centimetres (x : Single) : Fragment := .code (x.text ++ ['c', 'm'])

/-- A line of a printed letterhead, in small type. -/
def smallLine (t : Text) : List Fragment := [code "text(size: 9pt, ", .literal t, code ")"]

/-- How to reach a company: what is known of its phone, mail and tax number. -/
def contacts (c : Company) : List Text :=
  (c.phone.map ("Phone: ".toList ++ ·)).toList ++ (c.email.map ("Email: ".toList ++ ·)).toList ++
    (c.gstin.map ("GSTIN: ".toList ++ ·)).toList

/-- The lines of a printed letterhead: the name, the address unless it is blank, and the contacts. -/
def headerLines (c : Company) : List (List Fragment) :=
  [code "text(size: 16pt, weight: ", word "bold", code ", ", .literal c.name, code ")"] ::
    ((c.address.filter (!Text.allBlank ·)).map smallLine).toList ++
      if (contacts c).isEmpty then [] else [smallLine (Text.join " | ".toList (contacts c))]

/-- What the page set-up says about the letterhead. -/
def header (layout : Layout) : Letterhead → List Fragment
  | .blank => []
  | .image image =>
    [code ", header: align(center, image(", .literal image.name, code ", height: ",
      centimetres layout.letterheadTop.predAtLeastOne, code ", fit: ", word "contain", code "))"]
  | .lines company =>
    code ", header: [#align(center, stack(spacing: 4pt, " :: joined ", " (headerLines company) ++
      [code ")) #line(length: 100%, stroke: 0.5pt)]"]

/-- The margin at the top. -/
def topMargin (layout : Layout) : Letterhead → Single
  | .blank => layout.blankTop
  | _ => layout.letterheadTop

/-- The page set-up. -/
def setup (layout : Layout) (letterhead : Letterhead) : List Fragment :=
  [code "#set page(paper: ", word "a4", code ", margin: (top: ",
    centimetres (topMargin layout letterhead), code ", bottom: ", centimetres layout.bottom,
    code ", x: ", centimetres layout.side, code ")"] ++
  header layout letterhead ++
  [code ")\n#set text(size: ", .code layout.fontSize.text,
    code "pt)\n#set heading(numbering: none)\n\n"]

/-! ## Blocks -/

/-- The width of a table: its longest row, and at least one column. -/
def tableWidth (header : List Text) (rows : List (List Text)) : Nat :=
  (rows.map List.length).foldl max (max 1 header.length)

/-- A row filled up with empty cells. -/
def padded (width : Nat) (row : List Text) : List Text :=
  (row ++ List.replicate (width - row.length) []).take width

/-- A cell of the header. -/
def headerCell (t : Text) : List Fragment := [code "[#strong(", .literal t, code ")]"]

/-- A cell of a row. -/
def rowCell (t : Text) : List Fragment := [code "[#", .literal t, code "]"]

/-- A table. -/
def table (alignment : Alignment) (header : List Text) (rows : List (List Text)) : List Fragment :=
  let width := tableWidth header rows
  [code "#align(", .code alignment.name, code ")[#table(\n  columns: ", .code (Text.ofNat width),
    code ",\n  table.header("] ++
  joined ", " ((padded width header).map headerCell) ++
  code "),\n" :: rows.flatMap (fun row =>
    code "  " :: joined ", " ((padded width row).map rowCell) ++ [code ",\n"]) ++
  [code ")]"]

/-- **A block.** -/
def block (b : Block) : List Fragment :=
  match b.kind with
  | .heading level =>
    [code "#align(", .code b.alignment.name, code ")[#heading(level: ", .code (Text.ofNat level),
      code ", outlined: false)[#", .literal b.text, code "]]"]
  | .paragraph =>
    [code "#align(", .code b.alignment.name, code ")["] ++
    joined "#linebreak()" ((Text.splitOn '\n' b.text).map fun line => [code "#", .literal line]) ++
    [code "]"]
  | .lineBreak => [code "#v(1em)"]
  | .table header rows => table b.alignment header rows

/-- The fragments of a document. -/
def fragments (layout : Layout) (letterhead : Letterhead) (blocks : List Block) : List Fragment :=
  setup layout letterhead ++ blocks.flatMap fun b => block b ++ [code "\n\n"]

/-- The files that go with a letterhead. -/
def attachments : Letterhead → List Attachment
  | .image image => [image]
  | _ => []

/-- **Blocks as a document.** -/
def document (layout : Layout) (letterhead : Letterhead) (blocks : List Block) : TypstDocument where
  source := sourceOf (fragments layout letterhead blocks)
  attachments := attachments letterhead

end Typst

end Conveyance
