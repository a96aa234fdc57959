import Conveyance.Records

/-!
# Registry/Basic — records kept by their numbers

A `Registry` keeps nine kinds of record.  A record is filed only if **its number is not taken and
each of its references leads to a record** (`filed?`, `leads`), so references are filed in the order
in which kinds build on each other.  A kind may be lost; `restored` brings it back without records.
-/

namespace Conveyance

/-- The kinds of record that a registry keeps. -/
inductive RecordKind where
  | template
  | company
  | client
  | project
  | flat
  | milestone
  | schedule
  | request
  | receipt
  deriving DecidableEq, Repr

namespace RecordKind

/-- Every kind of record; a kind comes after those that it refers to. -/
def all : List RecordKind :=
  [template, company, client, project, flat, milestone, schedule, request, receipt]

/-- The name that a kind of record is kept under. -/
def name : RecordKind → String
  | template => "templates"
  | company => "companies"
  | client => "clients"
  | project => "projects"
  | flat => "units"
  | milestone => "project_milestones"
  | schedule => "customer_schedules"
  | request => "payment_requests"
  | receipt => "payment_receipts"

end RecordKind

/-- Records by kind. -/
structure Registry where
  templates : List Template := []
  companies : List Company := []
  clients : List Client := []
  projects : List Project := []
  flats : List Flat := []
  milestones : List Milestone := []
  schedules : List Schedule := []
  requests : List PaymentRequest := []
  receipts : List PaymentReceipt := []
  /-- The kinds that cannot be asked for. -/
  lost : List RecordKind := []
  deriving DecidableEq

namespace Registry

/-! ## Filing -/

section Filing

variable {α : Type}

/-- The records with one more, unless its number is taken. -/
def filed? (number : α → Int) (as : List α) (a : α) : Option (List α) :=
  if as.any (number · == number a) then none else some (as ++ [a])

/-- A reference leads to a record, if there is one at all. -/
def leads (number : α → Int) (as : List α) (reference : Option Int) : Bool :=
  reference.all fun n => as.any (number · == n)

end Filing

/-- An amount as it is kept: zero has no places. -/
def kept (d : Decimal) : Decimal := if d.isZero then .zero else d

/-- The registry with one more template. -/
def addTemplate? (r : Registry) (t : Template) : Option Registry :=
  (filed? (·.id) r.templates t).map fun templates => { r with templates }

/-- The registry with one more company. -/
def addCompany? (r : Registry) (c : Company) : Option Registry :=
  (filed? (·.id) r.companies c).map fun companies => { r with companies }

/-- The registry with one more client. -/
def addClient? (r : Registry) (c : Client) : Option Registry :=
  (filed? (·.id) r.clients c).map fun clients => { r with clients }

/-- The registry with one more project. -/
def addProject? (r : Registry) (p : Project) : Option Registry :=
  (filed? (·.id) r.projects { p with budget := p.budget.map kept }).map fun projects =>
    { r with projects }

/-- A reference to a project leads to one. -/
def hasProject (r : Registry) : Option Int → Bool := leads (·.id) r.projects

/-- A reference to a client leads to one. -/
def hasClient (r : Registry) : Option Int → Bool := leads (·.id) r.clients

/-- A reference to a flat leads to one. -/
def hasFlat (r : Registry) : Option Int → Bool := leads (·.id) r.flats

/-- The registry with one more flat, of a project and a client that it holds. -/
def addFlat? (r : Registry) (u : Flat) : Option Registry :=
  if r.hasProject u.projectId && r.hasClient u.clientId then
    (filed? (·.id) r.flats
      { u with areaSqft := u.areaSqft.map kept, flatValue := u.flatValue.map kept }).map
      fun flats => { r with flats }
  else none

/-- The registry with one more milestone, of a project that it holds. -/
def addMilestone? (r : Registry) (m : Milestone) : Option Registry :=
  if r.hasProject m.projectId then
    (filed? (·.id) r.milestones { m with completion := m.completion.map kept }).map
      fun milestones => { r with milestones }
  else none

/-- The registry with one more instalment, of a flat that it holds. -/
def addSchedule? (r : Registry) (s : Schedule) : Option Registry :=
  if r.hasFlat s.unitId then
    (filed? (·.id) r.schedules
      { s with percentage := s.percentage.map kept, amount := s.amount.map kept }).map
      fun schedules => { r with schedules }
  else none

/-- The registry with one more demand for payment, which has to have a status. -/
def addRequest? (r : Registry) (p : PaymentRequest) : Option Registry :=
  if r.hasClient p.clientId && r.hasProject p.projectId && r.hasFlat p.unitId && p.status.isSome then
    (filed? (·.id) r.requests { p with amount := p.amount.map kept }).map
      fun requests => { r with requests }
  else none

/-- The registry with one more payment received. -/
def addReceipt? (r : Registry) (p : PaymentReceipt) : Option Registry :=
  if r.hasClient p.clientId && r.hasProject p.projectId && r.hasFlat p.unitId then
    (filed? (·.id) r.receipts { p with amount := p.amount.map kept }).map
      fun receipts => { r with receipts }
  else none

/-! ## Losing kinds -/

/-- The registry without a kind of record. -/
def lose (r : Registry) (kind : RecordKind) : Registry :=
  let r := { r with lost := kind :: r.lost }
  match kind with
  | .template => { r with templates := [] }
  | .company => { r with companies := [] }
  | .client => { r with clients := [] }
  | .project => { r with projects := [] }
  | .flat => { r with flats := [] }
  | .milestone => { r with milestones := [] }
  | .schedule => { r with schedules := [] }
  | .request => { r with requests := [] }
  | .receipt => { r with receipts := [] }

/-- The registry with every kind of record; what was lost holds none. -/
def restored (r : Registry) : Registry := { r with lost := [] }

end Registry

end Conveyance
