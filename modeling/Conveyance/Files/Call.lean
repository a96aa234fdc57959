import Conveyance.Files.Operation
import Conveyance.Procedure

/-!
# Files/Call — what is asked of the file system

A `FileCall` is one request to the file system, so that what a procedure asks for can be told from
what comes of it.  `FileTree.answer` answers as a tree does; **another answerer may refuse any call**.
-/

namespace Conveyance

/-- One request to the file system. -/
inductive FileCall where
  | makeDirectories (path : Text)
  | write (path : Text) (bytes : List UInt8)
  | rename (source target : Text)
  | remove (path : Text)
  /-- Something lies where the path leads. -/
  | present (path : Text)
  deriving DecidableEq, Repr

namespace FileCall

/-- The answers to a request. -/
def Reply (_ : FileCall) : Type := Except FileFault Unit

end FileCall

namespace FileTree

/-- The outcome of a change, and the tree after it. -/
def changed (t : FileTree) : Except FileFault FileTree → Except FileFault Unit × FileTree
  | .ok t => (.ok (), t)
  | .error f => (.error f, t)

/-- **The answers of a tree.** -/
def answer : (c : FileCall) → FileTree → c.Reply × FileTree
  | .makeDirectories path, t => t.makeDirectories path
  | .write path bytes, t => t.changed (t.write path bytes)
  | .rename source target, t => t.changed (t.rename source target)
  | .remove path, t => t.changed (t.remove path)
  | .present path, t => ((t.find path).map fun _ => (), t)

end FileTree

end Conveyance
