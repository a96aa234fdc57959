import Conveyance.Startup.Launch

/-!
# Main — the program

Reads the environment and the file of settings, launches the desk and reports what comes of it.  A
launch that fails is reported and ends with status 1.
-/

open Conveyance

/-- The name of the file of settings. -/
def settingsFileName : String := ".env"

/-- The directories above an absolute path, the nearest first, each with a slash at its end. -/
def directoriesAbove (path : Text) : List String :=
  (List.range (path.length + 1)).reverse.filterMap fun n =>
    if (path.drop n).head? = some '/' || n = path.length then
      some (String.ofList (path.take n ++ ['/']))
    else none

/-- The text of the nearest file of settings. -/
def settingsFile? : IO (Option Text) := do
  let here ← IO.currentDir
  for directory in directoriesAbove here.toString.toList do
    try
      return some (← IO.FS.readFile (directory ++ settingsFileName)).toList
    catch _ => continue
  return none

/-- The names that a file of settings may mention. -/
def mentioned (file : Text) : List Text :=
  let isBrace (c : Char) : Bool := c = EnvFile.Position.openBrace || c = EnvFile.Position.closeBrace
  Text.splitOn ' ' (file.map fun c => if Text.isAlphanumeric c then c else ' ') ++
    Text.splitOn ' ' (file.map fun c => if isBrace c || c = '\n' then ' ' else c)

/-- The variables of the environment that matter to a launch. -/
def environmentNames (file : Text) : IO EnvFile.Names := do
  let mut held : List (Text × Text) := []
  for name in Variable.all.map (·.name.toList) ++ mentioned file do
    if !name.isEmpty && !name.contains (Char.ofNat 0) then
      if let some value ← IO.getEnv (String.ofList name) then
        held := (name, value.toList) :: held
  return fun name => (held.find? (·.1 = name)).map (·.2)

/-- An action that is refused for a reason of the file system. -/
def attempt (act : IO Unit) : IO (Except FileFault Unit) := do
  match ← act.toBaseIO with
  | .ok () => return .ok ()
  | .error (.noFileOrDirectory ..) => return .error .noEntry
  | .error (.alreadyExists ..) => return .error .occupied
  | .error (.inappropriateType ..) => return .error .notDirectory
  | .error _ => return .error .denied

/-- A directory made, and those that are missing above it. -/
partial def makeDirectories (path : Text) : IO (Except FileFault Unit) := do
  if path.isEmpty then return .ok ()
  match ← attempt (IO.FS.createDir (String.ofList path)), Path.parent? path with
  | .ok (), _ => return .ok ()
  | .error .noEntry, some above =>
    match ← makeDirectories above with
    | .ok () => attempt (IO.FS.createDir (String.ofList path))
    | .error f => return .error f
  | .error f, _ =>
    let there ← (IO.FS.realPath (String.ofList path)).toBaseIO
    match there with
    | .ok real => return if ← real.isDir then .ok () else .error f
    | .error _ => return .error f

/-- A request carried out by the file system. -/
def carryOut : (c : FileCall) → IO c.Reply
  | .makeDirectories path => makeDirectories path
  | .write path bytes => attempt (IO.FS.writeBinFile (String.ofList path) ⟨bytes.toArray⟩)
  | .rename source target => attempt (IO.FS.rename (String.ofList source) (String.ofList target))
  | .remove path => attempt (IO.FS.removeFile (String.ofList path))
  | .present path => attempt (do let _ ← IO.FS.readBinFile (String.ofList path))

/-- A course of action carried out call by call. -/
def carryOutAll {α : Type} : FileErrand α → IO α
  | .done a => return a
  | .call c next => do carryOutAll (next (← carryOut c))

/-- **The program.** -/
def main : IO UInt32 := do
  let file ← settingsFile?
  let names ← environmentNames (file.getD [])
  match ← carryOutAll (Surroundings.launch { names, file }) with
  | .ok launch =>
    for line in launch.log do
      IO.eprintln (String.ofList line)
    return 0
  | .error fault =>
    IO.eprintln ("ERROR " ++ String.ofList fault.message)
    return 1
