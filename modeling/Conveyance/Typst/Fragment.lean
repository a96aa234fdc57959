import Conveyance.Text.Basic

/-!
# Typst/Fragment — source text as code and string literals

Everything that a user wrote goes into a Typst document **as a string literal and never as markup**,
so source is made of two kinds of fragment: code that this library writes, and texts that are quoted.
`escape` puts a backslash before a backslash and a quote and writes a newline as `\n`.
-/

namespace Conveyance.Typst

/-- One character inside a string literal. -/
def escapeChar (c : Char) : Text :=
  if c = '\\' then ['\\', '\\']
  else if c = '"' then ['\\', '"']
  else if c = '\n' then ['\\', 'n']
  else [c]

/-- A text inside a string literal. -/
def escape (t : Text) : Text := t.flatMap escapeChar

/-- A text as a string literal. -/
def quoted (t : Text) : Text := '"' :: escape t ++ ['"']

/-- A fragment of source text. -/
inductive Fragment where
  | code (text : Text)
  | literal (text : Text)
  deriving DecidableEq, Repr

namespace Fragment

/-- The source text of a fragment. -/
def source : Fragment → Text
  | code t => t
  | literal t => quoted t

end Fragment

/-- The source text of fragments. -/
def sourceOf (fragments : List Fragment) : Text := fragments.flatMap Fragment.source

/-- Code given as a string. -/
def code (s : String) : Fragment := .code s.toList

/-- A fixed word as a string literal. -/
def word (s : String) : Fragment := .literal s.toList

/-- Fragments put together with code between neighbours. -/
def joined (separator : String) : List (List Fragment) → List Fragment
  | [] => []
  | [part] => part
  | part :: rest => part ++ code separator :: joined separator rest

end Conveyance.Typst
