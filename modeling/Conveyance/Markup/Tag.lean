import Conveyance.Text.Basic

/-!
# Markup/Tag — alignment tags

A tag such as `~center~` opens an alignment frame and `~/center~` closes one.  `Tag.read?`
recognizes a tag at the start of a text; the six spellings are such that **at most one of them
starts any given text**, so the order in which they are tried does not matter.
-/

namespace Conveyance

/-- Where a block stands on the page. -/
inductive Alignment where
  | left
  | center
  | right
  deriving DecidableEq, Repr

namespace Alignment

/-- The word for an alignment, in tags and in Typst alike. -/
def name : Alignment → Text
  | left => "left".toList
  | center => "center".toList
  | right => "right".toList

/-- The alignment with the given name. -/
def ofName? (n : Text) : Option Alignment := [left, center, right].find? (·.name = n)

end Alignment

/-- An alignment tag. -/
inductive Tag where
  | opening (alignment : Alignment)
  | closing (alignment : Alignment)
  deriving DecidableEq, Repr

namespace Tag

/-- The spelling of a tag. -/
def text : Tag → Text
  | opening a => '~' :: a.name ++ ['~']
  | closing a => '~' :: '/' :: a.name ++ ['~']

/-- Every tag. -/
def all : List Tag :=
  [opening .left, opening .center, opening .right, closing .left, closing .center, closing .right]

/-- The tag that starts a text, with what follows it. -/
def read? (t : Text) : Option (Tag × Text) :=
  all.findSome? fun tag => (Text.stripPrefix? tag.text t).map (tag, ·)

theorem text_ne_nil (tag : Tag) : tag.text ≠ [] := by
  cases tag <;> simp [text]

/-- **A recognized tag is what the text starts with.** -/
theorem eq_append_of_read? {t rest : Text} {tag : Tag} (h : read? t = some (tag, rest)) :
    t = tag.text ++ rest := by
  obtain ⟨tag', _, hread⟩ := List.exists_of_findSome?_eq_some h
  obtain ⟨rest', hrest, heq⟩ := Option.map_eq_some_iff.1 hread
  cases heq
  exact Text.eq_append_of_stripPrefix? hrest

/-- What follows a recognized tag is shorter. -/
theorem length_lt_of_read? {t rest : Text} {tag : Tag} (h : read? t = some (tag, rest)) :
    rest.length < t.length := by
  have hpos : 0 < tag.text.length := List.length_pos_iff.2 tag.text_ne_nil
  rw [eq_append_of_read? h, List.length_append]
  omega

end Tag

end Conveyance
