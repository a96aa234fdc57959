import Conveyance.Host.Authority
import Conveyance.Host.Basic

/-!
# Storage/Url — addresses as they are sent

The address of a request is normalized before it is sent: tabs and line breaks are dropped, the host
gets its one written form, dots between slashes are followed, and **what may not stand in an address is
written in bytes, each as a percent sign and two digits**.
-/

namespace Conveyance.Url

/-- A byte as a percent sign and two capital digits of base sixteen. -/
def percent (b : UInt8) : Text :=
  let digit := fun n : Nat => if n < 10 then Char.ofNat (48 + n) else Char.ofNat (55 + n)
  ['%', digit (b.toNat / 16), digit (b.toNat % 16)]

/-- A text with the characters of a class, and all that are not printed in ASCII, in bytes. -/
def encode (reserved : List Char) (t : Text) : Text :=
  t.flatMap fun c =>
    if c.toNat < 32 || 126 < c.toNat || reserved.contains c then
      (String.utf8EncodeChar c).flatMap percent
    else [c]

/-- What a part of a path may not hold. -/
def reservedInPath : List Char :=
  [' ', '"', '<', '>', Char.ofNat 0x60, '#', '?', Char.ofNat 0x7B, Char.ofNat 0x7D]

/-- What a user may not hold. -/
def reservedInUser : List Char :=
  reservedInPath ++ ['/', ':', ';', '=', '@', '[', '\\', ']', '^', '|']

/-- What a query may not hold. -/
def reservedInQuery : List Char := [' ', '"', '<', '>', '#', '\'']

/-- What a fragment may not hold. -/
def reservedInFragment : List Char := [' ', '"', '<', '>', Char.ofNat 0x60]

/-- A part of a path that means a single dot. -/
def isDot (part : Text) : Bool :=
  let p := Text.asciiLower part
  p = ['.'] || p = "%2e".toList

/-- A part of a path that means double dots. -/
def isDots (part : Text) : Bool :=
  let p := Text.asciiLower part
  p = "..".toList || p = ".%2e".toList || p = "%2e.".toList || p = "%2e%2e".toList

/-- The parts of a path with the dots followed, the nearest part first. -/
def followed : (before : List Text) → List Text → List Text
  | before, [] => before
  | before, [part] =>
    if isDots part then [] :: before.drop 1 else if isDot part then [] :: before else part :: before
  | before, part :: rest =>
    if isDots part then followed (before.drop 1) rest
    else if isDot part then followed before rest
    else followed (part :: before) rest

/-- A path with its dots followed, in bytes where it has to be; **it starts with a slash**. -/
def path (t : Text) : Text :=
  let parts := match Text.splitOn '/' t with
    | [] :: part :: parts => part :: parts
    | parts => parts
  (followed [] parts).reverse.flatMap fun part => '/' :: encode reservedInPath part

/-- A text before the first mark, and the mark with what follows it. -/
def cutAt (mark : Char) (t : Text) : Text × Text :=
  (t.takeWhile (· != mark), t.dropWhile (· != mark))

/-! ## Addresses -/

/-- An address as it is sent. -/
structure Address where
  /-- The connection is secured. -/
  secure : Bool
  /-- The user, where it stays in the address. -/
  user : Text
  host : Host
  /-- The port, where it is not the scheme's own. -/
  port : Option Nat
  /-- The path and the query. -/
  target : Text
  /-- What stays behind. -/
  fragment : Text
  deriving DecidableEq, Repr

/-- A user is taken out of an address and named in a header instead, **unless the bytes of its name are
no text**. -/
def keptUser (user : Text) : Text :=
  let (name, password) := cutAt ':' user
  if (Host.decoded? name).isSome then []
  else encode reservedInUser name ++
    match password with
    | _ :: c :: t => ':' :: encode reservedInUser (c :: t)
    | _ => []

/-- The port that needs no naming. -/
def ownPort (secure : Bool) : Nat := if secure then 443 else 80

/-- A mark and what follows it, in bytes where it has to be. -/
def marked (reserved : List Char) : Text → Text
  | c :: t => c :: encode reserved t
  | [] => []

/-- **The address that a text is**, normalized. -/
def address? (t : Text) : Option Address := do
  let (scheme, rest) ← Authority.cutScheme? (Authority.plain t)
  let secure ← if scheme = "http".toList then some false
    else if scheme = "https".toList then some true
    else none
  let (user?, rest) := Authority.cutUser (Authority.hosted rest)
  let (host, rest) := Authority.cutHost false rest
  let host ← (Host.read host).toOption
  let (port, rest) ← Authority.cutPort? rest
  let (rest, fragment) := cutAt '#' rest
  let (before, query) := cutAt '?' rest
  return { secure, host
           user := keptUser (user?.getD [])
           port := if port = some (ownPort secure) then none else port
           target := path before ++ marked reservedInQuery query
           fragment := marked reservedInFragment fragment }

/-- The whole of an address. -/
def Address.text (a : Address) : Text :=
  (if a.secure then "https://".toList else "http://".toList) ++
    (if a.user.isEmpty then [] else a.user ++ ['@']) ++ a.host.text ++
    (match a.port with
      | some n => ':' :: Text.ofNat n
      | none => []) ++
    a.target ++ a.fragment

/-- What the name of a host may hold and a request may not. -/
def unsendable : List Char := ['"', Char.ofNat 0x60, Char.ofNat 0x7B, Char.ofNat 0x7D]

/-- The longest address that is sent, in bytes. -/
def longest : Nat := 65534

/-- **The address can be sent.** -/
def Address.isSendable (a : Address) : Bool :=
  !a.host.text.any unsendable.contains && Text.utf8Length a.text ≤ longest

end Conveyance.Url
