import Conveyance.Json.Value
import Conveyance.Records

/-!
# Records/Json — records as JSON

Every kind of record is read from an object and written as one, field by field.  A field that a record
may lack may be left out or null, and **what is absent is written as null**; decimals, days and moments
are texts.
-/

namespace Conveyance

/-! ## Fields -/

namespace Json

/-- The place of a record in a list: 32 bits. -/
def place? (j : Json) : Option Int := j.signed? 32

/-- A decimal. -/
def decimal? (j : Json) : Option Decimal := j.string?.bind Decimal.read?

/-- A day. -/
def date? (j : Json) : Option Date := j.string?.bind Date.read?

/-- A moment. -/
def instant? (j : Json) : Option Instant := j.string?.bind Instant.read?

/-- A decimal as a text. -/
def ofDecimal (d : Decimal) : Json := string d.text

/-- A day as a text. -/
def ofDate (d : Date) : Json := string d.text

/-- A moment as a text. -/
def ofInstant (t : Instant) : Json := string t.text

/-- A field that has to be there, read by `f`. -/
def needed? {α : Type} (j : Json) (name : String) (f : Json → Option α) : Option α :=
  (j.member? name).bind f

/-- A field of an object that may be left out or null, read by `f`. -/
def optional? {α : Type} (j : Json) (name : String) (f : Json → Option α) : Option (Option α) :=
  match j.member? name with
  | none => j.object?.map fun _ => none
  | some value => (f value).map some

end Json

/-! ## Records -/

/-- A template read from JSON. -/
def Template.ofJson? (j : Json) : Option Template := do
  return { id := ← j.needed? "id" Json.id?, name := ← j.needed? "name" Json.string?,
           content := ← j.needed? "content" Json.string?,
           createdAt := ← j.optional? "created_at" Json.instant?,
           updatedAt := ← j.optional? "updated_at" Json.instant? }

/-- A template as JSON. -/
def Template.json (r : Template) : Json :=
  .record [("id", .ofInt r.id), ("name", .string r.name), ("content", .string r.content),
    ("created_at", .ofOption .ofInstant r.createdAt),
    ("updated_at", .ofOption .ofInstant r.updatedAt)]

/-- A client read from JSON. -/
def Client.ofJson? (j : Json) : Option Client := do
  return { id := ← j.needed? "id" Json.id?, name := ← j.needed? "name" Json.string?,
           email := ← j.optional? "email" Json.string?, phone := ← j.optional? "phone" Json.string?,
           address := ← j.optional? "address" Json.string?,
           panNo := ← j.optional? "pan_no" Json.string?,
           aadhaarNo := ← j.optional? "aadhaar_no" Json.string? }

/-- A client as JSON. -/
def Client.json (r : Client) : Json :=
  .record [("id", .ofInt r.id), ("name", .string r.name), ("email", .ofOption .string r.email),
    ("phone", .ofOption .string r.phone), ("address", .ofOption .string r.address),
    ("pan_no", .ofOption .string r.panNo), ("aadhaar_no", .ofOption .string r.aadhaarNo)]

/-- A project read from JSON. -/
def Project.ofJson? (j : Json) : Option Project := do
  return { id := ← j.needed? "id" Json.id?, name := ← j.needed? "name" Json.string?,
           address := ← j.optional? "address" Json.string?,
           description := ← j.optional? "description" Json.string?,
           startDate := ← j.optional? "start_date" Json.date?,
           endDate := ← j.optional? "end_date" Json.date?,
           budget := ← j.optional? "budget" Json.decimal?,
           status := ← j.optional? "status" Json.string? }

/-- A project as JSON. -/
def Project.json (r : Project) : Json :=
  .record [("id", .ofInt r.id), ("name", .string r.name), ("address", .ofOption .string r.address),
    ("description", .ofOption .string r.description), ("start_date", .ofOption .ofDate r.startDate),
    ("end_date", .ofOption .ofDate r.endDate), ("budget", .ofOption .ofDecimal r.budget),
    ("status", .ofOption .string r.status)]

/-- A flat read from JSON. -/
def Flat.ofJson? (j : Json) : Option Flat := do
  return { id := ← j.needed? "id" Json.id?, projectId := ← j.optional? "project_id" Json.id?,
           clientId := ← j.optional? "client_id" Json.id?,
           flatNo := ← j.needed? "flat_no" Json.string?,
           flatType := ← j.optional? "flat_type" Json.string?,
           floorNo := ← j.optional? "floor_no" Json.string?,
           areaSqft := ← j.optional? "area_sqft" Json.decimal?,
           flatValue := ← j.optional? "flat_value" Json.decimal?,
           status := ← j.optional? "status" Json.string? }

/-- A flat as JSON. -/
def Flat.json (r : Flat) : Json :=
  .record [("id", .ofInt r.id), ("project_id", .ofOption .ofInt r.projectId),
    ("client_id", .ofOption .ofInt r.clientId), ("flat_no", .string r.flatNo),
    ("flat_type", .ofOption .string r.flatType), ("floor_no", .ofOption .string r.floorNo),
    ("area_sqft", .ofOption .ofDecimal r.areaSqft),
    ("flat_value", .ofOption .ofDecimal r.flatValue), ("status", .ofOption .string r.status)]

/-- A company read from JSON. -/
def Company.ofJson? (j : Json) : Option Company := do
  return { id := ← j.needed? "id" Json.id?, name := ← j.needed? "name" Json.string?,
           address := ← j.optional? "address" Json.string?,
           phone := ← j.optional? "phone" Json.string?, email := ← j.optional? "email" Json.string?,
           gstin := ← j.optional? "gstin" Json.string?,
           website := ← j.optional? "website" Json.string?,
           letterheadPath := ← j.optional? "letterhead_path" Json.string? }

/-- A company as JSON. -/
def Company.json (r : Company) : Json :=
  .record [("id", .ofInt r.id), ("name", .string r.name), ("address", .ofOption .string r.address),
    ("phone", .ofOption .string r.phone), ("email", .ofOption .string r.email),
    ("gstin", .ofOption .string r.gstin), ("website", .ofOption .string r.website),
    ("letterhead_path", .ofOption .string r.letterheadPath)]

/-- A milestone read from JSON. -/
def Milestone.ofJson? (j : Json) : Option Milestone := do
  return { id := ← j.needed? "id" Json.id?, projectId := ← j.needed? "project_id" Json.id?,
           srNo := ← j.optional? "sr_no" Json.place?, name := ← j.needed? "name" Json.string?,
           description := ← j.optional? "description" Json.string?,
           completion := ← j.optional? "completion_percentage" Json.decimal?,
           status := ← j.optional? "status" Json.string?,
           targetDate := ← j.optional? "target_date" Json.date? }

/-- A milestone as JSON. -/
def Milestone.json (r : Milestone) : Json :=
  .record [("id", .ofInt r.id), ("project_id", .ofInt r.projectId),
    ("sr_no", .ofOption .ofInt r.srNo), ("name", .string r.name),
    ("description", .ofOption .string r.description),
    ("completion_percentage", .ofOption .ofDecimal r.completion),
    ("status", .ofOption .string r.status), ("target_date", .ofOption .ofDate r.targetDate)]

/-- An instalment read from JSON. -/
def Schedule.ofJson? (j : Json) : Option Schedule := do
  return { id := ← j.needed? "id" Json.id?, unitId := ← j.optional? "unit_id" Json.id?,
           srNo := ← j.optional? "sr_no" Json.place?,
           description := ← j.optional? "description" Json.string?,
           percentage := ← j.optional? "percentage" Json.decimal?,
           amount := ← j.optional? "amount" Json.decimal?,
           dueDate := ← j.optional? "due_date" Json.date?,
           status := ← j.optional? "status" Json.string? }

/-- An instalment as JSON. -/
def Schedule.json (r : Schedule) : Json :=
  .record [("id", .ofInt r.id), ("unit_id", .ofOption .ofInt r.unitId),
    ("sr_no", .ofOption .ofInt r.srNo), ("description", .ofOption .string r.description),
    ("percentage", .ofOption .ofDecimal r.percentage), ("amount", .ofOption .ofDecimal r.amount),
    ("due_date", .ofOption .ofDate r.dueDate), ("status", .ofOption .string r.status)]

/-- A demand for payment read from JSON. -/
def PaymentRequest.ofJson? (j : Json) : Option PaymentRequest := do
  return { id := ← j.needed? "id" Json.id?, clientId := ← j.optional? "client_id" Json.id?,
           projectId := ← j.optional? "project_id" Json.id?,
           unitId := ← j.optional? "unit_id" Json.id?,
           description := ← j.optional? "description" Json.string?,
           amount := ← j.optional? "amount" Json.decimal?,
           requestDate := ← j.optional? "request_date" Json.date?,
           dueDate := ← j.optional? "due_date" Json.date?,
           status := ← j.optional? "status" Json.string? }

/-- A demand for payment as JSON. -/
def PaymentRequest.json (r : PaymentRequest) : Json :=
  .record [("id", .ofInt r.id), ("client_id", .ofOption .ofInt r.clientId),
    ("project_id", .ofOption .ofInt r.projectId), ("unit_id", .ofOption .ofInt r.unitId),
    ("description", .ofOption .string r.description), ("amount", .ofOption .ofDecimal r.amount),
    ("request_date", .ofOption .ofDate r.requestDate), ("due_date", .ofOption .ofDate r.dueDate),
    ("status", .ofOption .string r.status)]

/-- A payment received read from JSON. -/
def PaymentReceipt.ofJson? (j : Json) : Option PaymentReceipt := do
  return { id := ← j.needed? "id" Json.id?, clientId := ← j.optional? "client_id" Json.id?,
           projectId := ← j.optional? "project_id" Json.id?,
           unitId := ← j.optional? "unit_id" Json.id?,
           description := ← j.optional? "description" Json.string?,
           amount := ← j.optional? "amount" Json.decimal?,
           receiptDate := ← j.optional? "receipt_date" Json.date?,
           paymentMethod := ← j.optional? "payment_method" Json.string?,
           referenceNo := ← j.optional? "reference_no" Json.string? }

/-- A payment received as JSON. -/
def PaymentReceipt.json (r : PaymentReceipt) : Json :=
  .record [("id", .ofInt r.id), ("client_id", .ofOption .ofInt r.clientId),
    ("project_id", .ofOption .ofInt r.projectId), ("unit_id", .ofOption .ofInt r.unitId),
    ("description", .ofOption .string r.description), ("amount", .ofOption .ofDecimal r.amount),
    ("receipt_date", .ofOption .ofDate r.receiptDate),
    ("payment_method", .ofOption .string r.paymentMethod),
    ("reference_no", .ofOption .string r.referenceNo)]

/-- An amount still owed read from JSON. -/
def PendingPayment.ofJson? (j : Json) : Option PendingPayment := do
  return { id := ← j.needed? "id" Json.id?, description := ← j.optional? "description" Json.string?,
           amount := ← j.optional? "amount" Json.decimal?,
           dueDate := ← j.optional? "due_date" Json.date?,
           status := ← j.optional? "status" Json.string? }

/-- An amount still owed as JSON. -/
def PendingPayment.json (r : PendingPayment) : Json :=
  .record [("id", .ofInt r.id), ("description", .ofOption .string r.description),
    ("amount", .ofOption .ofDecimal r.amount), ("due_date", .ofOption .ofDate r.dueDate),
    ("status", .ofOption .string r.status)]

end Conveyance
