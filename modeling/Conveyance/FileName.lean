import Conveyance.Calendar.Instant
import Conveyance.Context
import Conveyance.Text.Path

/-!
# FileName — names for generated files

`slug` keeps the letters and digits of a name and joins its words with single dashes; it falls back
to a given word when nothing is left.  `documentName` puts the kind of document, the slug, the second
and a random number together, so that **two documents of one name have two file names**.
`letterheadName` keeps the extension of an image, where it is plain.
-/

namespace Conveyance.FileName

/-! ## Slugs -/

/-- A character that separates words. -/
def isSeparator (c : Char) : Bool := Text.isBlank c || c == '-' || c == '_'

/-- The words of a name, read on from what is written: `gap` says that a separator has been passed
since the last letter or digit.  Other characters are left out and separate nothing. -/
def slugFrom (started gap : Bool) : Text → Text
  | [] => []
  | c :: t =>
    if c.isAlphanum then
      (if started && gap then ['-'] else []) ++ c.toLower :: slugFrom true false t
    else slugFrom started (gap || isSeparator c) t

/-- **A name as lower-case words joined by dashes**, or the fallback when it has no letter or digit
of ASCII. -/
def slug (name fallback : Text) : Text :=
  let s := slugFrom false false name
  if s.isEmpty then fallback else s

/-! ## Generated documents -/

/-- The moment a document is made and the eight random digits of its name. -/
structure Stamp where
  moment : Instant
  nonce : Text
  deriving DecidableEq

/-- The file name of a document with any word in front. -/
def stamped (word name : Text) (stamp : Stamp) : Text :=
  Text.replaceChar '_' ['-'] word ++ '-' :: slug name "document".toList ++
    '-' :: stamp.moment.stamp ++ '-' :: stamp.nonce ++ ".pdf".toList

/-- **The file name of a document.** -/
def documentName (type : DocumentType) (name : Text) (stamp : Stamp) : Text :=
  stamped type.name name stamp

/-! ## Letterheads -/

/-- The extension of a path, in small letters, when it is made of letters and digits of ASCII; a path
without one is taken for a PNG image. -/
def imageExtension (path : Text) : Text :=
  match (Path.extension? path).filter (·.all Char.isAlphanum) with
  | some e => Text.asciiLower e
  | none => "png".toList

/-- The name under which the image of a letterhead is attached. -/
def letterheadName (path : Text) : Text := "letterhead.".toList ++ imageExtension path

end Conveyance.FileName
