import Conveyance.Catalog.Placeholder
import Conveyance.Markup.Tag

/-!
# Token — a template as literal text, placeholders and tags

`scan` goes once over a template, from left to right.  Wherever a placeholder or an alignment tag
starts it becomes a token of its own; **everything else stays literal, character for character**, and
literal text that hangs together is one token.  Braces that enclose no name of the catalog are
literal text as well.
-/

namespace Conveyance

/-- A token of a template. -/
inductive Token where
  | literal (text : Text)
  | placeholder (placeholder : Placeholder)
  | tag (tag : Tag)
  deriving DecidableEq, Repr

namespace Token

/-- The placeholder or the tag that starts a text, with what follows it. -/
def readMark? (t : Text) : Option (Token × Text) :=
  match t with
  | '{' :: _ => (Placeholder.read? t).map fun (p, rest) => (placeholder p, rest)
  | '~' :: _ => (Tag.read? t).map fun (g, rest) => (tag g, rest)
  | _ => none

theorem length_lt_of_readMark? {t rest : Text} {token : Token}
    (h : readMark? t = some (token, rest)) : rest.length < t.length := by
  unfold readMark? at h
  split at h
  · obtain ⟨⟨p, rest'⟩, hread, heq⟩ := Option.map_eq_some_iff.1 h
    cases heq
    exact Placeholder.length_lt_of_read? hread
  · obtain ⟨⟨g, rest'⟩, hread, heq⟩ := Option.map_eq_some_iff.1 h
    cases heq
    exact Tag.length_lt_of_read? hread
  · cases h

/-- A literal character in front of tokens. -/
def consChar (c : Char) : List Token → List Token
  | literal t :: tokens => literal (c :: t) :: tokens
  | tokens => literal [c] :: tokens

/-- **The tokens of a template.** -/
def scan : Text → List Token
  | [] => []
  | c :: t =>
    match h : readMark? (c :: t) with
    | some (token, rest) =>
      have := length_lt_of_readMark? h
      token :: scan rest
    | none => consChar c (scan t)
termination_by t => t.length
decreasing_by
  · assumption
  · exact Nat.lt_succ_self t.length

end Token

end Conveyance
