import Conveyance.Files.Tree

/-!
# Files/Operation — reading and changing files

The operations on a tree, each with the checks in the order in which the file system makes them.  An
operation that is refused **leaves the tree as it was**; only `makeDirectories`, which goes up a path
until it finds a directory and comes down again, keeps what it has made so far.
-/

namespace Conveyance.FileTree

/-! ## Looking -/

/-- The node that a path leads to. -/
def find (t : FileTree) (path : Text) : Except FileFault Node := do
  let s ← t.spot path
  match t.node? s.location with
  | none => throw .noEntry
  | some .directory => return .directory
  | some (.file bytes runnable) =>
    if s.slash then throw .notDirectory else return .file bytes runnable

/-- A path leads to a directory. -/
def isDirectory (t : FileTree) (path : Text) : Bool :=
  match t.find path with
  | .ok .directory => true
  | _ => false

/-- **The bytes of a file.** -/
def read (t : FileTree) (path : Text) : Except FileFault (List UInt8) := do
  match ← t.find path with
  | .file bytes _ => return bytes
  | .directory => throw .isDirectory

/-! ## Changing -/

/-- **A file with the given bytes** in the place of one that may lie there. -/
def write (t : FileTree) (path : Text) (bytes : List UInt8) : Except FileFault FileTree := do
  let s ← t.spot path
  if s.slash then throw .isDirectory
  match t.node? s.location with
  | some .directory => throw .isDirectory
  | some (.file _ runnable) => return t.put s.location (.file bytes runnable)
  | none => return t.put s.location (.file bytes false)

/-- A directory where nothing lies. -/
def makeDirectory (t : FileTree) (path : Text) : Except FileFault FileTree := do
  let s ← t.spot path
  match t.node? s.location with
  | some _ => throw .occupied
  | none => return t.put s.location .directory

/-- **A directory and all that are missing above it.** -/
def makeDirectories (t : FileTree) (path : Text) : Except FileFault Unit × FileTree :=
  if path.isEmpty then (.ok (), t)
  else match t.makeDirectory path with
    | .ok t => (.ok (), t)
    | .error .noEntry =>
      match Path.parent? path with
      | none => (.error .noEntry, t)
      | some above =>
        if above.length < path.length then
          match makeDirectories t above with
          | (.error f, t) => (.error f, t)
          | (.ok (), t) =>
            match t.makeDirectory path with
            | .ok t => (.ok (), t)
            | .error f => (if t.isDirectory path then .ok () else .error f, t)
        else (.error .noEntry, t)
    | .error f => (if t.isDirectory path then .ok () else .error f, t)
termination_by path.length

/-- **A file moved**, in the place of one that may lie there. -/
def rename (t : FileTree) (source target : Text) : Except FileFault FileTree := do
  let s ← t.spot source
  let d ← t.spot target
  if s.name?.isNone || d.name?.isNone then throw .busy
  match t.node? s.location with
  | none => throw .noEntry
  | some .directory => throw .isDirectory
  | some (.file bytes runnable) =>
    if s.slash || d.slash then throw .notDirectory
    if t.node? d.location = some .directory then throw .isDirectory
    return (t.erase s.location).put d.location (.file bytes runnable)

/-- **A file removed.** -/
def remove (t : FileTree) (path : Text) : Except FileFault FileTree := do
  let s ← t.spot path
  match t.node? s.location with
  | none => throw .noEntry
  | some .directory => throw .isDirectory
  | some (.file ..) => if s.slash then throw .notDirectory else return t.erase s.location

/-- **A directory removed with all that it holds.** -/
def removeAll (t : FileTree) (path : Text) : Except FileFault FileTree := do
  let s ← t.spot path
  if s.name?.isNone then throw .busy
  match t.node? s.location with
  | none => throw .noEntry
  | some (.file ..) => throw .notDirectory
  | some .directory => return t.prune s.location

end Conveyance.FileTree
