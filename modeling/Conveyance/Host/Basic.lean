import Conveyance.Host.Name
import Conveyance.Host.Number

/-!
# Host/Basic — hosts

A host is told by a name or by a number.  `Host.read` reads the text that stands for a host in an
address: brackets hold a long number, **a name that ends in a number is a short number**, and all else is
a name, in which bytes may stand as a percent sign and two digits.
-/

namespace Conveyance

/-- A machine that can be reached. -/
inductive Host where
  | name (text : Text)
  /-- A number of four bytes. -/
  | short (number : Nat)
  /-- A number of eight groups. -/
  | long (groups : List Nat)
  deriving DecidableEq, Repr

/-- Why a text stands for no host. -/
inductive HostFault where
  | empty
  | name
  | short
  | long
  deriving DecidableEq, Repr

namespace Host

/-- The bytes of a text; a percent sign and two digits of base sixteen are one byte. -/
def bytes : Text → List UInt8
  | '%' :: c :: d :: t =>
    match hexValue? c, hexValue? d with
    | some m, some n => UInt8.ofNat (16 * m + n) :: bytes t
    | _, _ => Text.utf8 ['%'] ++ bytes (c :: d :: t)
  | c :: t => Text.utf8 [c] ++ bytes t
  | [] => []

/-- The text of bytes, unless they are none. -/
def decoded? (t : Text) : Option Text := (String.fromUTF8? ⟨(bytes t).toArray⟩).map String.toList

/-- **The host that a text stands for.** -/
def read (t : Text) : Except HostFault Host :=
  match t with
  | '[' :: t =>
    if t.getLast? != some ']' then .error .long
    else match long? t.dropLast with
      | some groups => .ok (.long groups)
      | none => .error .long
  | t =>
    match (decoded? t).bind name? with
    | none => .error .name
    | some [] => .error .empty
    | some spelled =>
      if !isNumeric spelled then .ok (.name spelled)
      else match short? spelled with
        | some n => .ok (.short n)
        | none => .error .short

/-- A host in its one written form. -/
def text : Host → Text
  | name t => t
  | short n => shortText n
  | long groups => '[' :: longText groups ++ [']']

end Host

end Conveyance
