import Conveyance.Markup.Formatter
import Conveyance.Token

/-!
# Resolve — a template filled in from a context

`Token.resolve?` is the text that a token stands for; `render?` puts the texts of a template's tokens
one after another, in a single pass, so **what a field holds is never read as a template again**.  A
table stands on lines of its own: a newline goes in front of it and behind it where there is none.
The only thing that can fail is a total that leaves the range of decimals.
-/

namespace Conveyance

namespace Placeholder

/-- The text that a placeholder stands for; gaps in the data are empty, and `none` is a total out of
range. -/
def resolve? (f : Format) (ctx : Context) : Placeholder → Option Text
  | scalar field => some ((field.value ctx).display f)
  | current field => some ((field.value ctx).display f)
  | cell c column index => some (((c.cell? ctx index column).map (Value.display f)).getD [])
  | table c => some (Table.ofCollection f ctx c).markup
  | total c => (c.total? ctx).map f.amount
  | count c => some (Text.ofNat (c.count ctx))

end Placeholder

namespace Token

/-- The text that a token stands for. -/
def resolve? (f : Format) (ctx : Context) : Token → Option Text
  | literal t => some t
  | tag g => some g.text
  | placeholder p => p.resolve? f ctx

/-- The token is a table. -/
def isTable : Token → Bool
  | placeholder (.table _) => true
  | _ => false

end Token

/-- What is written so far, and whether a table is waiting for the newline behind it. -/
structure Filling where
  text : Text := []
  afterTable : Bool := false
  deriving DecidableEq, Repr

namespace Filling

/-- The newline in front of a table that does not start a line. -/
def newlineBefore (s : Filling) (isTable : Bool) : Text :=
  if isTable && !s.text.isEmpty && s.text.getLast? != some '\n' then ['\n'] else []

/-- The newline behind a table, in front of the first text that follows it. -/
def newlineAfter (s : Filling) (text : Text) : Text :=
  if s.afterTable && !text.isEmpty && text.head? != some '\n' then ['\n'] else []

/-- The text of one more token. -/
def add (s : Filling) (isTable : Bool) (text : Text) : Filling where
  text := s.text ++ s.newlineBefore isTable ++ s.newlineAfter text ++ text
  afterTable := isTable || (s.afterTable && text.isEmpty)

end Filling

/-- **A template filled in**: every token's text, in order. -/
def render? (f : Format) (ctx : Context) (template : Text) : Option Text :=
  ((Token.scan template).foldlM
    (fun (s : Filling) (token : Token) => (token.resolve? f ctx).map (s.add token.isTable))
    {}).map (·.text)

/-- A template filled in, with the blocks that its text makes. -/
structure Rendering where
  text : Text
  blocks : List Block
  deriving DecidableEq, Repr

/-- **A template filled in and read into blocks.** -/
def renderTemplate? (f : Format) (ctx : Context) (template : Text) : Option Rendering :=
  (render? f ctx template).map fun text => ⟨text, formatBlocks text⟩

end Conveyance
