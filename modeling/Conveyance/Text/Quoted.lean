import Conveyance.Text.Printable

/-!
# Text/Quoted — a text between quotes, shown character by character

A message that shows a value puts it between quotes.  Quotes, backslashes and the common controls are
escaped by a letter, and **a character that shows nothing by itself is given by its number**.
-/

namespace Conveyance.Text

/-- The digits of a number in base sixteen, in small letters. -/
def hex (n : Nat) : Text := Nat.toDigits 16 n

/-- One character of a shown text. -/
def shownChar (c : Char) : Text :=
  if c = '"' then ['\\', '"']
  else if c = '\\' then ['\\', '\\']
  else if c = '\n' then ['\\', 'n']
  else if c = '\r' then ['\\', 'r']
  else if c = '\t' then ['\\', 't']
  else if c = Char.ofNat 0 then ['\\', '0']
  else if isPrintable c then [c]
  else '\\' :: 'u' :: Char.ofNat 0x7B :: hex c.toNat ++ [Char.ofNat 0x7D]

/-- **A text between quotes**, every character of it visible. -/
def shown (t : Text) : Text := '"' :: t.flatMap shownChar ++ ['"']

end Conveyance.Text
