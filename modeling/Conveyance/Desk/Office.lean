import Conveyance.Compiler.Machine
import Conveyance.Desk.Generate
import Conveyance.Registry.Query
import Conveyance.Startup.Settings
import Conveyance.Storage.Bucket
import Conveyance.Storage.Folder

/-!
# Desk/Office — the desk at work

In an `Office` the desk's calls are answered by a registry, by a machine that compiles and by the place
where documents are kept.  `Office.answer` says how; **the machine's files are all that changes**, a
folder of documents being part of them.
-/

namespace Conveyance

/-- Those that the desk calls on. -/
structure Office where
  registry : Registry
  place : Place
  /-- The program that compiles documents. -/
  compiler : Text
  /-- What a remote store replies; there may be no reply. -/
  remote : BucketPlace.Remote := fun _ => none

/-- A machine and the directory in which a document is worked on. -/
structure Bench where
  machine : Machine := {}
  directory : Text := []
  deriving DecidableEq

namespace Bench

/-- Something done to the files of the machine. -/
def withFiles {α : Type} (b : Bench) (act : FileTree → α × FileTree) : α × Bench :=
  let (a, files) := act b.machine.files
  (a, { b with machine := { b.machine with files } })

/-- A document compiled into a file of the directory. -/
def compile (b : Bench) (program name : Text) (d : TypstDocument) :
    Except CompileFault Unit × Bench :=
  let (r, machine) :=
    (Compiler.compile program d (Path.joined b.directory name)).run Machine.answer b.machine
  (r, { b with machine })

/-- The directory in which a document was worked on taken away with all that it holds. -/
def leave (b : Bench) : Bench := { machine := b.machine.discard b.directory }

end Bench

namespace Place

/-- An object put into a place. -/
def upload (p : Place) (remote : BucketPlace.Remote) (object : Text)
    (bytes : List UInt8) (b : Bench) : Except Text Unit × Bench :=
  match p with
  | folder p =>
    let (r, b) := b.withFiles ((p.upload object bytes).run FileTree.answer)
    (r.mapError (·.message), b)
  | bucket p => (p.upload remote object bytes, b)

/-- An object removed from a place. -/
def delete (p : Place) (remote : BucketPlace.Remote) (object : Text) (b : Bench) :
    Except Text Unit × Bench :=
  match p with
  | folder p =>
    let (r, b) := b.withFiles ((p.delete object).run FileTree.answer)
    (r.mapError (·.message), b)
  | bucket p => (p.delete remote object, b)

end Place

namespace Office

/-- What the registry says, in words when it fails. -/
def told {α : Type} (answer : Except RegistryFault α) : Except Text α :=
  answer.mapError (·.message)

/-- **The answers of an office.** -/
def answer (o : Office) : (c : Call) → Bench → c.Reply × Bench
  | .template id, b => (told (o.registry.template id), b)
  | .client id, b => (told (o.registry.client id), b)
  | .project id, b => (told (o.registry.project id), b)
  | .flat id, b => (told (o.registry.flat id), b)
  | .company id, b => (told (o.registry.company id), b)
  | .milestones project, b => (told (o.registry.milestonesOf project), b)
  | .schedules flat, b => (told (o.registry.schedulesOf flat), b)
  | .requests scope, b => (told (o.registry.requestsIn scope), b)
  | .receipts scope, b => (told (o.registry.receiptsIn scope), b)
  | .pending scope, b => (told (o.registry.pendingIn scope), b)
  | .request id, b => (told (o.registry.request id), b)
  | .receipt id, b => (told (o.registry.receipt id), b)
  | .image path, b => (b.machine.files.read path, b)
  | .workDirectory, b =>
    let (directory, machine) := b.machine.privateDirectory
    (.ok (), { machine, directory })
  | .compile name d, b => b.compile o.compiler name d
  | .read name, b => (b.machine.files.read (Path.joined b.directory name), b)
  | .upload object bytes, b => o.place.upload o.remote object bytes b
  | .delete object, b => o.place.delete o.remote object b

/-- A course of action carried out in an office; **the work directory is taken away at its end**,
whatever came of it. -/
def conduct {α : Type} (o : Office) (e : Errand α) (b : Bench) : α × Bench :=
  let (a, b) := e.run o.answer b
  (a, b.leave)

end Office

namespace Settings

/-- The desk that settings describe. -/
def desk (s : Settings) : Desk where
  format := s.format
  layout := s.layout
  folder := s.documentsFolder
  address := s.storage.address

/-- The office that settings describe, around a registry. -/
def office (s : Settings) (registry : Registry) : Office where
  registry := registry
  place := s.storage
  compiler := s.typstProgram

end Settings

end Conveyance
