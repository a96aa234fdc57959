import Conveyance.Desk.Letterhead
import Conveyance.Resolve

/-!
# Desk/Generate — documents made and shared, and previews

`Desk.generate` takes a request to a shared document: the template, the records, the page, the
compiler, the store.  `Desk.preview` stops when the template is filled in.  Both fill in a template
in the same way, so **a preview shows what is printed**.  A failed upload is followed by one attempt
to remove the object, whatever comes of it.
-/

namespace Conveyance

/-- What is settled for every document of one desk. -/
structure Desk where
  format : Format := {}
  layout : Layout := {}
  /-- The folder of the store that receives documents. -/
  folder : Text := "documents".toList
  /-- The public address of an object of the store. -/
  address : Text → Text

/-- When a document is made: the day that is printed, and what its file name is stamped with. -/
structure Occasion where
  today : Date
  stamp : FileName.Stamp
  deriving DecidableEq

/-- A document that has been shared. -/
structure Generated where
  fileName : Text
  url : Text
  size : Nat
  documentType : DocumentType
  deriving DecidableEq, Repr

namespace Desk

/-- The name of the object that a document is stored as. -/
def objectName (desk : Desk) (fileName : Text) : Text :=
  let folder := Text.trimBy (· == '/') desk.folder
  if folder.isEmpty then fileName else folder ++ '/' :: fileName

/-! ## Steps -/

/-- A request with complaints goes no further. -/
def accept (complaints : List Complaint) : Drafting Unit :=
  if complaints.isEmpty then pure () else throw (.invalid complaints)

/-- The template with the given number. -/
def template (id : Int) : Drafting Template := do
  match ← Drafting.look (.template id) fun reply => reply with
  | some t => return t
  | none => throw (.noTemplate id)

/-- A text filled in for some targets. -/
def fillIn (desk : Desk) (today : Date) (type : DocumentType) (targets : Targets) (content : Text) :
    Drafting Rendering := do
  let context ← Drafting.assemble type targets today
  match renderTemplate? desk.format context content with
  | some rendering => return rendering
  | none => throw .overflow

/-- A document compiled under a file name, as bytes. -/
def compile (document : TypstDocument) (fileName : Text) : Drafting (List UInt8) := do
  Drafting.ask .workDirectory (·.mapError .workDirectory)
  Drafting.ask (.compile fileName document) (·.mapError .compile)
  Drafting.ask (.read fileName) (·.mapError .read)

/-- An object put into the store; what a failed attempt may have left is deleted. -/
def share (object : Text) (bytes : List UInt8) : Drafting Unit :=
  ExceptT.mk (.call (.upload object bytes) fun
    | .ok () => .done (.ok ())
    | .error text => .call (.delete object) fun _ => .done (.error (.store text)))

/-! ## Requests -/

/-- **A document made and shared.** -/
def generate (desk : Desk) (occasion : Occasion) (r : GenerateRequest) : Drafting Generated := do
  accept r.complaints
  let template ← template r.template
  let rendering ← desk.fillIn occasion.today r.documentType r.targets template.content
  let letterhead ← Drafting.letterhead r
  let document := Typst.document desk.layout letterhead rendering.blocks
  let fileName := FileName.documentName r.documentType template.name occasion.stamp
  let bytes ← compile document fileName
  let object := desk.objectName fileName
  share object bytes
  return { fileName, url := desk.address object, size := bytes.length,
           documentType := r.documentType }

/-- The text that a preview fills in. -/
def previewContent (r : PreviewRequest) : Drafting Text :=
  match r.template with
  | some id => do return (← template id).content
  | none => pure (r.content.getD [])

/-- **A template, or a text that is not stored yet, filled in.** -/
def preview (desk : Desk) (today : Date) (r : PreviewRequest) : Drafting Rendering := do
  accept r.complaints
  desk.fillIn today r.documentType r.targets (← previewContent r)

end Desk

end Conveyance
