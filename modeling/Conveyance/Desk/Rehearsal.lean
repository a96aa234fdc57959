import Conveyance.Desk.Call
import Conveyance.Files.Operation

/-!
# Desk/Rehearsal — a desk tried out on given records

A `Rehearsal` stands in for the registry, the compiler and the store: records are found in lists, the
compiler hands back its source, and the store forgets what it is given.  **Chosen calls can be made to
fail**, and the compiler can be made to end badly.
-/

namespace Conveyance

/-- The records that a registry holds, by kind. -/
structure Records where
  templates : List Template := []
  clients : List Client := []
  projects : List Project := []
  flats : List Flat := []
  companies : List Company := []
  milestones : List Milestone := []
  schedules : List Schedule := []
  requests : List PaymentRequest := []
  receipts : List PaymentReceipt := []
  pending : List PendingPayment := []
  deriving DecidableEq

/-- How the compiler behaves. -/
inductive Printing where
  /-- The source is the document. -/
  | prints
  | leavesNothing
  | breaksOff
  | exits (code : Int)
  deriving DecidableEq, Repr

/-- A stand-in for those that the desk calls on. -/
structure Rehearsal where
  records : Records := {}
  /-- The names of the calls that fail. -/
  failing : List Text := []
  failure : Text := []
  printing : Printing := .prints
  files : FileTree := {}
  deriving DecidableEq

/-- The name of a call. -/
def Call.name : Call → String
  | template _ => "get_template"
  | client _ => "get_client"
  | project _ => "get_project"
  | flat _ => "get_unit"
  | company _ => "get_company"
  | milestones _ => "list_project_milestones"
  | schedules _ => "list_customer_schedules"
  | requests _ => "list_payment_requests"
  | receipts _ => "list_payment_receipts"
  | pending _ => "list_pending_payments"
  | request _ => "get_payment_request"
  | receipt _ => "get_payment_receipt"
  | image _ => "image"
  | workDirectory => "work_directory"
  | compile .. => "pdf"
  | read _ => "read"
  | upload .. => "upload"
  | delete _ => "delete"

namespace Rehearsal

/-- The call is made to fail. -/
def fails (r : Rehearsal) (c : Call) : Bool := r.failing.any (· = c.name.toList)

/-- The answer of the registry, unless the call is made to fail. -/
def found {α : Type} (r : Rehearsal) (c : Call) (answer : α) : Except Text α :=
  if r.fails c then .error ("encountered unexpected or invalid data: ".toList ++ r.failure)
  else .ok answer

/-- The answer of the store, unless the call is made to fail. -/
def shared (r : Rehearsal) (c : Call) : Except Text Unit :=
  if r.fails c then .error r.failure else .ok ()

/-- The name fits into a directory. -/
def isShort (name : Text) : Bool := Text.utf8Length name ≤ FileTree.longestName

/-- What the compiler makes of a document: how it ends, and what it leaves. -/
def print (r : Rehearsal) (name : Text) (d : TypstDocument) :
    Except CompileFault Unit × Option (List UInt8) :=
  match r.printing with
  | .prints =>
    if isShort name then (.ok (), some (Text.utf8 d.source))
    else (.error (.source .nameTooLong), none)
  | .leavesNothing => (.ok (), none)
  | .breaksOff => (.error (.brokenOff "task panicked".toList), none)
  | .exits code => (.error (.exit code), none)

/-- **The answers of the stand-in**; what the compiler has left is all that it remembers. -/
def answer (r : Rehearsal) : (c : Call) → Option (List UInt8) → c.Reply × Option (List UInt8)
  | .template id, s => (r.found (.template id) (r.records.templates.find? (·.id = id)), s)
  | .client id, s => (r.found (.client id) (r.records.clients.find? (·.id = id)), s)
  | .project id, s => (r.found (.project id) (r.records.projects.find? (·.id = id)), s)
  | .flat id, s => (r.found (.flat id) (r.records.flats.find? (·.id = id)), s)
  | .company id, s => (r.found (.company id) (r.records.companies.find? (·.id = id)), s)
  | .milestones id, s => (r.found (.milestones id) r.records.milestones, s)
  | .schedules id, s => (r.found (.schedules id) r.records.schedules, s)
  | .requests scope, s => (r.found (.requests scope) r.records.requests, s)
  | .receipts scope, s => (r.found (.receipts scope) r.records.receipts, s)
  | .pending scope, s => (r.found (.pending scope) r.records.pending, s)
  | .request id, s => (r.found (.request id) (r.records.requests.find? (·.id = id)), s)
  | .receipt id, s => (r.found (.receipt id) (r.records.receipts.find? (·.id = id)), s)
  | .image path, s => (r.files.read path, s)
  | .workDirectory, s => (.ok (), s)
  | .compile name d, _ => r.print name d
  | .read name, s =>
    (match s with
      | some bytes => .ok bytes
      | none => .error (if isShort name then .noEntry else .nameTooLong), s)
  | .upload object bytes, s => (r.shared (.upload object bytes), s)
  | .delete object, s => (r.shared (.delete object), s)

end Rehearsal

end Conveyance
