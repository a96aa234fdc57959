import Conveyance.Script.Reader
import Conveyance.Script.Shell

/-!
# Compiler/Machine — a machine on which compilers are scripts

A `Machine` is a tree of files that hands out private directories and starts programs.  A program is a
file that may be run, and its text is read as a shell script; **a program that is not named by a path
is not found**, because the machine has none installed.
-/

namespace Conveyance

/-- A tree of files that hands out private directories. -/
structure Machine where
  files : FileTree := {}
  /-- How many private directories have been handed out. -/
  handedOut : Nat := 0
  deriving DecidableEq, Repr

namespace Machine

/-- The directory that holds private ones. -/
def privateRoot : Text := "private".toList

/-- The place of a private directory. -/
def privateLocation (n : Nat) : Location := [privateRoot, Text.ofNat n]

/-- An absolute path to a place. -/
def pathOf (p : Location) : Text := p.flatMap ('/' :: ·)

/-- A new private directory. -/
def privateDirectory (m : Machine) : Text × Machine :=
  let p := privateLocation m.handedOut
  (pathOf p, { files := (m.files.put [privateRoot] .directory).put p .directory
               handedOut := m.handedOut + 1 })

/-- A private directory taken away with all that it holds, as far as that can be done. -/
def discard (m : Machine) (directory : Text) : Machine :=
  { m with files := (m.files.changed (m.files.removeAll directory)).2 }

/-- The text of a program. -/
def program (m : Machine) (path : Text) : Except FileFault Text := do
  if !path.contains '/' then throw .noEntry
  match ← m.files.find path with
  | .directory => throw .denied
  | .file bytes runnable =>
    if runnable then return ((String.fromUTF8? ⟨bytes.toArray⟩).getD "").toList else throw .denied

/-- A script run in a directory; one that cannot be read ends with status 2. -/
def runScript (m : Machine) (script directory : Text) (parameters : List Text) :
    Ending × Machine :=
  match Command.readAll? script with
  | none => (.exited 2, m)
  | some commands =>
    let here := m.files.here
    let s := Shell.run commands
      { files := { m.files with here := FileTree.names directory }, parameters }
    (s.ending.getD (.exited s.status), { m with files := { s.files with here } })

/-- A program run on a source. -/
def start (m : Machine) (program directory source output : Text) :
    Except FileFault Ending × Machine :=
  match m.program program with
  | .error f => (.error f, m)
  | .ok script =>
    let (ending, m) := m.runScript script directory [program, "compile".toList, source, output]
    (.ok ending, m)

/-- **The answers of a machine** to a compilation. -/
def answer : (c : CompilerCall) → Machine → c.Reply × Machine
  | .privateDirectory, m => (.ok m.privateDirectory.1, m.privateDirectory.2)
  | .file c, m =>
    let (reply, files) := m.files.answer c
    (reply, { m with files })
  | .start program directory source output, m => m.start program directory source output
  | .discard directory, m => ((), m.discard directory)

end Machine

end Conveyance
