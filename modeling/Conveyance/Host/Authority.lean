import Conveyance.Text.Numeral

/-!
# Host/Authority — who and what an address names before its path

An address is a scheme, a colon and what the scheme makes of the rest.  Behind two slashes stands an
authority: perhaps a user with an at sign, a host, and perhaps a colon with a port.  The functions here
cut these apart and do not judge a host; **an authority ends at the first slash, question mark or
number sign**.
-/

namespace Conveyance.Authority

/-- A text as an address sees it: without blanks around it, tabs and line breaks. -/
def plain (t : Text) : Text :=
  (Text.trimBy (fun c => c.toNat ≤ 32) t).filter fun c => c != '\t' && c != '\n' && c != '\r'

/-- The scheme of an address, in small letters, and what follows its colon. -/
def cutScheme? (t : Text) : Option (Text × Text) :=
  let inScheme := fun c : Char => c.isAlphanum || c == '+' || c == '-' || c == '.'
  match t.dropWhile inScheme with
  | ':' :: rest =>
    if t.head?.any Char.isAlpha then some (Text.asciiLower (t.takeWhile inScheme), rest) else none
  | _ => none

/-- The schemes whose addresses always name a host, with any number of slashes before it; a backslash
counts as a slash there. -/
def hostedSchemes : List String := ["http", "https", "ws", "wss", "ftp"]

/-- Slashes for the backslashes before the query and the fragment. -/
def slashed (t : Text) : Text :=
  let inPath := fun c : Char => c != '?' && c != '#'
  Text.replaceChar '\\' ['/'] (t.takeWhile inPath) ++ t.dropWhile inPath

/-- An authority where a host is always named, and what follows it. -/
def hosted (t : Text) : Text := (slashed t).dropWhile (· == '/')

/-- The character does not end an authority. -/
def isInside (c : Char) : Bool := c != '/' && c != '?' && c != '#'

/-- The user before the last at sign of the authority, if there is one, and what follows. -/
def cutUser (t : Text) : Option Text × Text :=
  let authority := t.takeWhile isInside
  if authority.contains '@' then
    let host := (authority.reverse.takeWhile (· != '@')).reverse
    let size := authority.length - host.length
    (some (authority.take (size - 1)), t.drop size)
  else (none, t)

/-- The host at the start of a text and what follows it; a colon between brackets belongs to it. -/
def cutHost : (bracketed : Bool) → Text → Text × Text
  | _, [] => ([], [])
  | bracketed, c :: t =>
    if (c == ':' && !bracketed) || !isInside c then ([], c :: t)
    else
      let (host, rest) := cutHost (c == '[' || (bracketed && c != ']')) t
      (c :: host, rest)

/-- **The port behind a host**, which need not be there, and what follows it.  A port is a number below
2 ^ 16, or nothing. -/
def cutPort? : Text → Option (Option Nat × Text)
  | ':' :: t =>
    let port := t.takeWhile fun c => isInside c && c != '\\'
    if port.isEmpty then some (none, t)
    else if port.all Char.isDigit && Text.digitsValue port < 65536 then
      some (some (Text.digitsValue port), t.drop port.length)
    else none
  | t => some (none, t)

end Conveyance.Authority
