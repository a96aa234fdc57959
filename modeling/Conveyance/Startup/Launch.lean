import Conveyance.Desk.Office
import Conveyance.Startup.EnvFile

/-!
# Startup/Launch — from an environment to a desk at work

A launch reads the settings, reaches the registry, makes the folder of documents and checks the address
to listen on, in this order.  **The first step that fails decides the fault**, and a launch that fails
goes no further.  The only thing it asks of the file system is the folder.
-/

namespace Conveyance

/-! ## Faults -/

/-- Why an address cannot be listened on. -/
inductive ListenFault where
  /-- There is no colon between a host and a port. -/
  | noPort
  /-- What follows the last colon is no port. -/
  | port
  deriving DecidableEq, Repr

namespace ListenFault

/-- The fault in words. -/
def message : ListenFault → Text
  | noPort => "invalid socket address".toList
  | port => "invalid port value".toList

end ListenFault

/-- Why a launch fails. -/
inductive LaunchFault where
  | settings (error : SettingsError)
  | registry (fault : RegistryFault)
  /-- The folder of documents cannot be made. -/
  | folder (fault : FileFault)
  | listen (fault : ListenFault)
  deriving DecidableEq, Repr

namespace LaunchFault

/-- The fault in words. -/
def message : LaunchFault → Text
  | settings e => e.message
  | registry f => f.message
  | folder f => f.message
  | listen f => f.message

end LaunchFault

/-! ## Steps -/

/-- The variables of an environment, by their names. -/
def Environment.ofNames (names : EnvFile.Names) : Environment := fun v => names v.name.toList

/-- **A registry reached** at an address, unless it turns everyone away; kinds of record that it has
lost are there again, without records. -/
def Registry.reached (r : Registry) (address : Text) (refusal : Option Text) :
    Except RegistryFault Registry :=
  match Address.fault? address, refusal with
  | some f, _ => .error (.address f)
  | none, some t => .error (.refused t)
  | none, none => .ok r.restored

/-- What follows the last colon of a text, if there is one. -/
def afterLastColon? (t : Text) : Option Text :=
  if t.contains ':' then some (t.reverse.takeWhile (· != ':')).reverse else none

/-- The text is a port: a number below 2 ^ 16, which may have a plus sign. -/
def isPort (t : Text) : Bool :=
  let digits := (Text.stripPrefix? ['+'] t).getD t
  Text.isDigits digits && Text.digitsValue digits < 65536

/-- What keeps an address from being listened on. -/
def listenFault? (address : Text) : Option ListenFault :=
  match afterLastColon? address with
  | none => some .noPort
  | some port => if isPort port then none else some .port

/-- The folder of a place made, where documents are kept in one. -/
def Place.prepare : Place → FileErrand (Except FileFault Unit)
  | .folder p => .call (.makeDirectories p.directory) .done
  | .bucket _ => .done (.ok ())

/-! ## Launching -/

/-- What a launch finds. -/
structure Surroundings where
  /-- The variables that are set. -/
  names : EnvFile.Names := fun _ => none
  /-- A file that sets more of them. -/
  file : Option Text := none
  registry : Registry := {}
  /-- What the registry turns everyone away with, if it does. -/
  refusal : Option Text := none

/-- A desk at work. -/
structure Launch where
  settings : Settings
  registry : Registry
  /-- What has been logged on the way. -/
  log : List Text

namespace Surroundings

/-- The environment, the file of settings counted in. -/
def environment (s : Surroundings) : Environment :=
  .ofNames <| match s.file with
    | some file => EnvFile.load s.names file
    | none => s.names

/-- The settings and the registry that a launch goes on with. -/
def reach (s : Surroundings) : Except LaunchFault (Settings × Registry) := do
  let settings ← (Settings.read s.environment).mapError .settings
  let registry ← (s.registry.reached settings.databaseUrl s.refusal).mapError .registry
  return (settings, registry)

/-- The end of a launch: the desk is at work if there is an address to listen on. -/
def listen (settings : Settings) (registry : Registry) : Except LaunchFault Launch :=
  match listenFault? settings.bindAddress with
  | some f => .error (.listen f)
  | none => .ok
    { settings, registry
      log := ["INFO Database migrations applied".toList,
        "INFO Starting server at http://".toList ++ settings.bindAddress] }

/-- **A launch.** -/
def launch (s : Surroundings) : FileErrand (Except LaunchFault Launch) :=
  match s.reach with
  | .error f => .done (.error f)
  | .ok (settings, registry) => settings.storage.prepare.bind fun
    | .error f => .done (.error (.folder f))
    | .ok () => .done (listen settings registry)

end Surroundings

end Conveyance
