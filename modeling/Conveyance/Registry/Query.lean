import Conveyance.Desk.Request
import Conveyance.Registry.Address
import Conveyance.Registry.Basic

/-!
# Registry/Query — what a registry answers

Records are found by their number, and the records of a project, of a flat or of a `Scope` are listed.
**Lists have an order of their own**, whatever the order of filing: stages by their place, all others by
their number.  A demand counts as pending unless its status is the word for paid.
-/

namespace Conveyance

/-- Why a registry does not answer. -/
inductive RegistryFault where
  /-- Its address is none. -/
  | address (fault : AddressFault)
  /-- It turns everyone away. -/
  | refused (text : Text)
  /-- The kind of record is lost. -/
  | lost (kind : RecordKind)
  deriving DecidableEq, Repr

namespace RegistryFault

/-- The fault in words. -/
def message : RegistryFault → Text
  | address f => "error with configuration: ".toList ++ f.message
  | refused text => "error returned from database: ".toList ++ text
  | lost kind =>
    "error returned from database: relation \"".toList ++ kind.name.toList ++
      "\" does not exist".toList

end RegistryFault

/-- What is asked for agrees with what a record holds; nothing that is asked for agrees with an
absence. -/
def agrees (wanted held : Option Int) : Bool := wanted.all fun n => held == some n

namespace Scope

/-- The scope covers the payments of a client, a project and a flat. -/
def covers (s : Scope) (client project flat : Option Int) : Bool :=
  agrees s.client client && agrees s.project project && agrees s.flat flat

end Scope

namespace Registry

variable {α : Type}

/-! ## Order -/

/-- One record goes before another: by place, where a record without one comes last, and then by
number. -/
def goesBefore (place : α → Option Int) (number : α → Int) (a b : α) : Bool :=
  match place a, place b with
  | some m, some n => m < n || (m == n && number a ≤ number b)
  | some _, none => true
  | none, some _ => false
  | none, none => number a ≤ number b

/-- Records in the order of their places and numbers. -/
def placed (place : α → Option Int) (number : α → Int) (as : List α) : List α :=
  as.mergeSort (goesBefore place number)

/-- Records in the order of their numbers. -/
def numbered (number : α → Int) (as : List α) : List α := placed (fun _ => none) number as

/-! ## Questions -/

/-- The records of a kind that is not lost. -/
def among (r : Registry) (kind : RecordKind) (records : List α) : Except RegistryFault (List α) :=
  if r.lost.contains kind then .error (.lost kind) else .ok records

/-- The record with the given number. -/
def one (r : Registry) (kind : RecordKind) (number : α → Int) (records : List α) (id : Int) :
    Except RegistryFault (Option α) :=
  (r.among kind records).map (·.find? (number · == id))

/-- The template with the given number. -/
def template (r : Registry) : Int → Except RegistryFault (Option Template) :=
  r.one .template (·.id) r.templates

/-- The client with the given number. -/
def client (r : Registry) : Int → Except RegistryFault (Option Client) :=
  r.one .client (·.id) r.clients

/-- The project with the given number. -/
def project (r : Registry) : Int → Except RegistryFault (Option Project) :=
  r.one .project (·.id) r.projects

/-- The flat with the given number. -/
def flat (r : Registry) : Int → Except RegistryFault (Option Flat) :=
  r.one .flat (·.id) r.flats

/-- The company with the given number. -/
def company (r : Registry) : Int → Except RegistryFault (Option Company) :=
  r.one .company (·.id) r.companies

/-- The demand with the given number. -/
def request (r : Registry) : Int → Except RegistryFault (Option PaymentRequest) :=
  r.one .request (·.id) r.requests

/-- The receipt with the given number. -/
def receipt (r : Registry) : Int → Except RegistryFault (Option PaymentReceipt) :=
  r.one .receipt (·.id) r.receipts

/-- **The milestones of a project**, in order. -/
def milestonesOf (r : Registry) (project : Int) : Except RegistryFault (List Milestone) :=
  (r.among .milestone r.milestones).map fun ms =>
    placed (·.srNo) (·.id) (ms.filter (·.projectId == project))

/-- **The instalments of a flat**, in order. -/
def schedulesOf (r : Registry) (flat : Int) : Except RegistryFault (List Schedule) :=
  (r.among .schedule r.schedules).map fun ss =>
    placed (·.srNo) (·.id) (ss.filter (·.unitId == some flat))

/-- **The demands of a scope.** -/
def requestsIn (r : Registry) (s : Scope) : Except RegistryFault (List PaymentRequest) :=
  (r.among .request r.requests).map fun ps =>
    numbered (·.id) (ps.filter fun p => s.covers p.clientId p.projectId p.unitId)

/-- **The receipts of a scope.** -/
def receiptsIn (r : Registry) (s : Scope) : Except RegistryFault (List PaymentReceipt) :=
  (r.among .receipt r.receipts).map fun ps =>
    numbered (·.id) (ps.filter fun p => s.covers p.clientId p.projectId p.unitId)

/-- A demand is not paid yet; its status may be written in letters of any size. -/
def isPending (p : PaymentRequest) : Bool :=
  p.status.any fun t => Text.asciiLower t != "paid".toList

/-- What is owed on a demand. -/
def owed (p : PaymentRequest) : PendingPayment where
  id := p.id
  description := p.description
  amount := p.amount
  dueDate := p.dueDate
  status := p.status

/-- **What is owed in a scope**: its demands that are not paid yet. -/
def pendingIn (r : Registry) (s : Scope) : Except RegistryFault (List PendingPayment) :=
  (r.requestsIn s).map fun ps => (ps.filter isPending).map owed

end Registry

end Conveyance
