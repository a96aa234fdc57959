import Conveyance.Host.Spelling
import Conveyance.Text.Direction
import Conveyance.Text.Joining
import Conveyance.Text.Punycode

/-!
# Host/Name — the name of a host in ASCII

A name is labels with points between them.  `name?` gives a name its one spelling, with every label
beyond ASCII in letters, digits and hyphens behind `xn--`.  A label that is written so already is read
back, **because it has to be well formed as it is read**: composed, in characters that are their own
spelling, not beginning with a mark, its joiners where they can be seen.
-/

namespace Conveyance.Host

/-- What stands before a label in letters, digits and hyphens. -/
def coded : Text := "xn--".toList

/-- The longest label that is put into letters, digits and hyphens. -/
def longestLabel : Nat := 1000

/-- The longest that is read back. -/
def longestCoded : Nat := 2000

/-- All characters are ASCII. -/
def isAscii (t : Text) : Bool := t.all Text.Punycode.isBasic

/-- The label is well formed as it is read. -/
def isWellFormed (label : Text) : Bool :=
  !label.head?.any Text.isMark && label.all isKept && Text.joinersFit label &&
    Text.composed label == label

/-- A label as it is read and as it is written. -/
def label? (label : Text) : Option (Text × Text) :=
  match Text.stripPrefix? coded label with
  | some code => do
    if !isAscii label || longestCoded < code.length then none
    let read ← Text.Punycode.decode? code
    if isAscii read || !isWellFormed read then none else some (read, label)
  | none =>
    if isAscii label then some (label, label)
    else if longestLabel < label.length || !isWellFormed label then none
    else some (label, coded ++ Text.Punycode.encode label)

/-- A text in the spelling that counts. -/
def spelled? (t : Text) : Option Text :=
  (t.mapM spelling?).map fun spellings => Text.composed spellings.flatten

/-- **The name of a host**, unless the text is none. -/
def name? (t : Text) : Option Text := do
  let labels ← (Text.splitOn '.' (← spelled? t)).mapM label?
  if Text.areUnmixed (labels.map (·.1)) then some (Text.join ['.'] (labels.map (·.2))) else none

end Conveyance.Host
