import Conveyance.Host.Authority
import Conveyance.Host.Basic

/-!
# Registry/Address — the address of the registry's database

An address names a scheme, perhaps a user, a host and perhaps a port.  `Address.fault?` tells what
keeps a text from being one; **of several faults the first from the left counts**.  What stands after
the host and its port is not looked at.
-/

namespace Conveyance

/-- What keeps a text from being an address. -/
inductive AddressFault where
  | noScheme
  | noHost
  /-- A character that no host holds. -/
  | hostCharacter
  /-- No name of a host. -/
  | hostName
  /-- A name that ends in a number, and no short number. -/
  | shortNumber
  /-- Brackets without a long number between them. -/
  | longNumber
  | port
  deriving DecidableEq, Repr

namespace AddressFault

/-- The fault in words. -/
def message : AddressFault → Text
  | noScheme => "relative URL without a base".toList
  | noHost => "empty host".toList
  | hostCharacter => "invalid domain character".toList
  | hostName => "invalid international domain name".toList
  | shortNumber => "invalid IPv4 address".toList
  | longNumber => "invalid IPv6 address".toList
  | port => "invalid port number".toList

/-- The fault of an address whose host cannot be read. -/
def ofHost : HostFault → AddressFault
  | .empty => noHost
  | .name => hostName
  | .short => shortNumber
  | .long => longNumber

end AddressFault

namespace Address

/-- The characters that no host holds, whatever the scheme. -/
def forbidden : List Char := [Char.ofNat 0, ' ', ':', '<', '>', '@', '[', '\\', ']', '^', '|']

/-- What is wrong with the text of a host.  Where the scheme always names a host, it is read as one;
elsewhere only its characters count. -/
def hostFault? (hosted : Bool) (host : Text) : Option AddressFault :=
  match hosted || host.head? = some '[', Host.read host with
  | true, .error f => some (.ofHost f)
  | true, .ok _ => none
  | false, _ => if host.any forbidden.contains then some .hostCharacter else none

/-- There is more before the at sign than the colon between a name and a password. -/
def namesUser (user : Text) : Bool := !user.isEmpty && user != [':']

/-- What is wrong with a user, a host and a port. -/
def authorityFault? (hosted : Bool) (t : Text) : Option AddressFault :=
  let (user?, rest) := Authority.cutUser t
  let (host, after) := Authority.cutHost false rest
  if host.isEmpty && (hosted || user?.any namesUser || after.head? = some ':') then some .noHost
  else if host.isEmpty && user? = some [] && !after.isEmpty then some .noHost
  else match hostFault? hosted host with
    | some f => some f
    | none => if (Authority.cutPort? after).isNone then some .port else none

/-- **What keeps a text from being an address**; blanks around it and line breaks do not count. -/
def fault? (t : Text) : Option AddressFault :=
  match Authority.cutScheme? (Authority.plain t) with
  | none => some .noScheme
  | some (scheme, rest) =>
    if Authority.hostedSchemes.any (·.toList = scheme) then
      authorityFault? true (Authority.hosted rest)
    else if scheme = "file".toList then none
    else match rest with
      | '/' :: '/' :: authority => authorityFault? false authority
      | _ => none

end Address

end Conveyance
