import Conveyance.Files.Call
import Conveyance.Storage.Place

/-!
# Storage/Folder — objects kept as files in a folder

An object is kept in the file of its name below the folder.  A name has to stay inside the folder:
**every component of it is an ordinary name**.  An upload writes beside the object first and then
moves the file into its place, so nobody reads half an object.
-/

namespace Conveyance

/-- Why an object is not stored or removed. -/
inductive StoreFault where
  /-- The name of the object leads out of the folder. -/
  | name (object : Text)
  | create (directory : Text) (fault : FileFault)
  | write (path : Text) (fault : FileFault)
  | store (path : Text) (fault : FileFault)
  | delete (path : Text) (fault : FileFault)
  deriving DecidableEq, Repr

namespace StoreFault

/-- What failed, where and why. -/
def sentence (verb : String) (path : Text) (f : FileFault) : Text :=
  "Failed to ".toList ++ verb.toList ++ ' ' :: path ++ ": ".toList ++ f.message

/-- The fault in words. -/
def message : StoreFault → Text
  | name object => "Invalid storage path: ".toList ++ object
  | create path f => sentence "create" path f
  | write path f => sentence "write" path f
  | store path f => sentence "store" path f
  | delete path f => sentence "delete" path f

end StoreFault

/-- A course of action on files. -/
abbrev FileErrand := Procedure FileCall FileCall.Reply

namespace FolderPlace

/-- The component is an ordinary name. -/
def isOrdinary : Component → Bool
  | .normal _ => true
  | _ => false

/-- **The path of an object**, unless its name leads out of the folder. -/
def path? (p : FolderPlace) (object : Text) : Option Text :=
  if !object.isEmpty && (Path.components object).all isOrdinary then
    some (Path.joined p.directory object)
  else none

/-- The path of the file that an object is written to before it is moved into its place. -/
def partialPath (path : Text) : Text := Path.withExtension path "part".toList

/-- Bytes written beside an object and moved into its place. -/
def replace (path : Text) (bytes : List UInt8) : FileErrand (Except StoreFault Unit) :=
  let beside := partialPath path
  .call (.write beside bytes) fun
  | .error f => .done (.error (.write beside f))
  | .ok () => .call (.rename beside path) fun
    | .ok () => .done (.ok ())
    | .error f => .call (.remove beside) fun _ => .done (.error (.store path f))

/-- **An object stored**, in the place of one of the same name. -/
def upload (p : FolderPlace) (object : Text) (bytes : List UInt8) :
    FileErrand (Except StoreFault Unit) :=
  match p.path? object with
  | none => .done (.error (.name object))
  | some path =>
    match Path.parent? path with
    | none => replace path bytes
    | some above => .call (.makeDirectories above) fun
      | .error f => .done (.error (.create above f))
      | .ok () => replace path bytes

/-- **An object removed**; there may be none. -/
def delete (p : FolderPlace) (object : Text) : FileErrand (Except StoreFault Unit) :=
  match p.path? object with
  | none => .done (.error (.name object))
  | some path => .call (.remove path) fun
    | .ok () | .error .noEntry => .done (.ok ())
    | .error f => .done (.error (.delete path f))

end FolderPlace

end Conveyance
