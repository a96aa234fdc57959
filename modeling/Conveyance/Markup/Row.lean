import Conveyance.Text.Basic

/-!
# Markup/Row — table rows written as lines between vertical bars

`Row.markup` writes cells as one line, `Row.isRow` recognizes such a line and `Row.splitCells`
reads the cells back.  A backslash makes the next character part of its cell, so a bar or a
backslash of the cell's own is written with one in front (`escapeCell`); **a line break inside a
cell becomes a space**, because a row is one line.
-/

namespace Conveyance.Row

/-! ## Writing -/

/-- One character of a cell, written so that it stays inside the cell. -/
def escapeChar (c : Char) : Text :=
  if c = '\\' then ['\\', '\\']
  else if c = '|' then ['\\', '|']
  else if c = '\r' || c = '\n' then [' ']
  else [c]

/-- A cell, written so that it stays one cell. -/
def escapeCell (cell : Text) : Text := cell.flatMap escapeChar

/-- Cells as one line. -/
def markup (cells : List Text) : Text :=
  "| ".toList ++ Text.join " | ".toList (cells.map escapeCell) ++ " |".toList

/-! ## Recognizing -/

/-- A line is a row when, trimmed, it starts with a bar and ends with another one that has no
backslash in front. -/
def isRow (line : Text) : Bool :=
  let t := Text.trim line
  2 ≤ t.length && t.head? == some '|' && t.getLast? == some '|' &&
    (Text.stripSuffix? ['\\', '|'] t).isNone

/-- The characters a separator row is made of. -/
def isRuleChar (c : Char) : Bool := c == '|' || c == '-' || c == ':' || c == ' '

/-- **A separator row** is drawn with bars, dashes, colons and spaces, at least one dash among
them; it divides the header from the rows and carries no cells. -/
def isSeparator (line : Text) : Bool :=
  let t := Text.trim line
  t.contains '-' && t.all isRuleChar

/-! ## Reading -/

/-- A character put in front of the first cell. -/
def consFirst (c : Char) : List Text → List Text
  | [] => [[c]]
  | cell :: cells => (c :: cell) :: cells

/-- The cells between unescaped bars, the escapes taken away; there is always at least one. -/
def cut : Text → List Text
  | [] => [[]]
  | ['\\'] => [['\\']]
  | '\\' :: c :: t => consFirst c (cut t)
  | '|' :: t => [] :: cut t
  | c :: t => consFirst c (cut t)

/-- The cells of a row, each trimmed: what stands between its first and its last bar, cut. -/
def splitCells (line : Text) : List Text :=
  (cut ((Text.trim line).drop 1).dropLast).map Text.trim

end Conveyance.Row
