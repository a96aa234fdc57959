import Conveyance.Compiler.Fault
import Conveyance.Files.Call
import Conveyance.Typst.Document

/-!
# Compiler/Compile — a document compiled by a program

The source and its attachments are written into a private directory, and a program is started there.
It is told where the source lies and where the compiled document is to go.  The directory is taken
away again whatever comes of it.  `compile` succeeds only if **the program succeeds and leaves
something at the output**; otherwise what it left there is removed.
-/

namespace Conveyance

/-- How a program ends. -/
inductive Ending where
  | exited (code : Nat)
  | killed
  deriving DecidableEq, Repr

/-- What a compilation asks of the machine. -/
inductive CompilerCall where
  /-- A new directory that nobody else uses. -/
  | privateDirectory
  | file (c : FileCall)
  /-- The program run in a directory until it ends. -/
  | start (program directory source output : Text)
  /-- A private directory taken away with all that it holds; a failure is passed over. -/
  | discard (directory : Text)
  deriving DecidableEq, Repr

/-- The answers to what a compilation asks. -/
def CompilerCall.Reply : CompilerCall → Type
  | privateDirectory => Except FileFault Text
  | file c => c.Reply
  | start .. => Except FileFault Ending
  | discard _ => Unit

/-- A course of action of a compilation. -/
abbrev CompilerErrand := Procedure CompilerCall CompilerCall.Reply

namespace Compiler

/-- The name of the source in the private directory. -/
def sourceName : Text := "document.typ".toList

/-- The name of an attachment in the private directory: **the last part of its name**, so that it
stays inside. -/
def attachmentName (a : Attachment) : Text :=
  (Path.fileName? a.name).getD "attachment".toList

/-- The files of a document, in the order in which they are written. -/
def files (d : TypstDocument) : List (Text × List UInt8) :=
  (sourceName, Text.utf8 d.source) :: d.attachments.map fun a => (attachmentName a, a.bytes)

/-- Files written into a directory, one after another. -/
def writeAll (directory : Text) :
    List (Text × List UInt8) → CompilerErrand (Except CompileFault Unit)
  | [] => .done (.ok ())
  | (name, bytes) :: rest =>
    .call (.file (.write (Path.joined directory name) bytes)) fun
    | .ok () => writeAll directory rest
    | .error f => .done (.error (.source f))

/-- What the end of the program means. -/
def ofEnding : Ending → Except CompileFault Unit
  | .exited 0 => .ok ()
  | .exited n => .error (.exit n)
  | .killed => .error (.exit (-1))

/-- The program run on the source in a directory. -/
def runProgram (program directory output : Text) : CompilerErrand (Except CompileFault Unit) :=
  .call (.start program directory (Path.joined directory sourceName) output) fun
  | .error f => .done (.error (.start f))
  | .ok ending =>
    match ofEnding ending with
    | .error f => .done (.error f)
    | .ok () => .call (.file (.present output)) fun
      | .ok () => .done (.ok ())
      | .error f => .done (.error (.noDocument f))

/-- The files of a document written into a directory, and the program run there. -/
def work (program : Text) (d : TypstDocument) (directory output : Text) :
    CompilerErrand (Except CompileFault Unit) :=
  (writeAll directory (files d)).bind fun
  | .error f => .done (.error f)
  | .ok () => runProgram program directory output

/-- A compilation in a private directory, **which is taken away at its end**; what lies at the output
stays. -/
def attempt (program : Text) (d : TypstDocument) (output : Text) :
    CompilerErrand (Except CompileFault Unit) :=
  .call .privateDirectory fun
  | .error f => .done (.error (.directory f))
  | .ok directory => (work program d directory output).bind fun r =>
    .call (.discard directory) fun _ => .done r

/-- What lies at a path removed, if anything does. -/
def clear (path : Text) : CompilerErrand Unit :=
  .call (.file (.present path)) fun
  | .error _ => .done ()
  | .ok () => .call (.file (.remove path)) fun _ => .done ()

/-- **A document compiled**; a compilation that fails leaves nothing at the output. -/
def compile (program : Text) (d : TypstDocument) (output : Text) :
    CompilerErrand (Except CompileFault Unit) :=
  (attempt program d output).bind fun
  | .ok () => .done (.ok ())
  | .error f => (clear output).bind fun _ => .done (.error f)

end Compiler

end Conveyance
