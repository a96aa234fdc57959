import Conveyance.Catalog.Value
import Conveyance.Context

/-!
# Catalog/Scalar — single fields and their names

A `Scalar` is one field of the client, the project, the flat or the company of a context, or today's
date; a `CurrentField` is one field of the payment that the document is about.  Names are the words
between the braces of a placeholder; **no two fields share a name** (`Scalar.ofName?_name`,
`CurrentField.ofName?_name`).
-/

namespace Conveyance

/-- One field of a context. -/
inductive Scalar where
  | clientName
  | clientEmail
  | clientPhone
  | clientAddress
  | clientPan
  | clientAadhaar
  | projectName
  | projectAddress
  | projectDescription
  | projectStartDate
  | projectEndDate
  | projectBudget
  | projectStatus
  | flatNo
  | flatType
  | flatFloor
  | flatArea
  | flatValue
  | flatStatus
  | companyName
  | companyAddress
  | companyPhone
  | companyEmail
  | companyGstin
  | companyWebsite
  | currentDate
  deriving DecidableEq, Repr

namespace Scalar

/-- Every field, in the order in which they are listed. -/
def all : List Scalar :=
  [clientName, clientEmail, clientPhone, clientAddress, clientPan, clientAadhaar,
    projectName, projectAddress, projectDescription, projectStartDate, projectEndDate,
    projectBudget, projectStatus,
    flatNo, flatType, flatFloor, flatArea, flatValue, flatStatus,
    companyName, companyAddress, companyPhone, companyEmail, companyGstin, companyWebsite,
    currentDate]

/-- The name of a field. -/
def name : Scalar → Text
  | clientName => "CLIENT_NAME".toList
  | clientEmail => "CLIENT_EMAIL".toList
  | clientPhone => "CLIENT_PHONE".toList
  | clientAddress => "CLIENT_ADDRESS".toList
  | clientPan => "CLIENT_PAN".toList
  | clientAadhaar => "CLIENT_AADHAAR".toList
  | projectName => "PROJECT_NAME".toList
  | projectAddress => "PROJECT_ADDRESS".toList
  | projectDescription => "PROJECT_DESCRIPTION".toList
  | projectStartDate => "PROJECT_START_DATE".toList
  | projectEndDate => "PROJECT_END_DATE".toList
  | projectBudget => "PROJECT_BUDGET".toList
  | projectStatus => "PROJECT_STATUS".toList
  | flatNo => "FLAT_NO".toList
  | flatType => "FLAT_TYPE".toList
  | flatFloor => "FLAT_FLOOR".toList
  | flatArea => "FLAT_AREA".toList
  | flatValue => "FLAT_VALUE".toList
  | flatStatus => "FLAT_STATUS".toList
  | companyName => "COMPANY_NAME".toList
  | companyAddress => "COMPANY_ADDRESS".toList
  | companyPhone => "COMPANY_PHONE".toList
  | companyEmail => "COMPANY_EMAIL".toList
  | companyGstin => "COMPANY_GSTIN".toList
  | companyWebsite => "COMPANY_WEBSITE".toList
  | currentDate => "CURRENT_DATE".toList

/-- The field with the given name. -/
def ofName? (n : Text) : Option Scalar := all.find? (·.name = n)

theorem ofName?_name (s : Scalar) : ofName? s.name = some s := by
  cases s <;> decide

/-- What a field is a field of. -/
def group : Scalar → Text
  | clientName | clientEmail | clientPhone | clientAddress | clientPan | clientAadhaar =>
    "Client".toList
  | projectName | projectAddress | projectDescription | projectStartDate | projectEndDate
  | projectBudget | projectStatus => "Project".toList
  | flatNo | flatType | flatFloor | flatArea | flatValue | flatStatus => "Unit".toList
  | companyName | companyAddress | companyPhone | companyEmail | companyGstin | companyWebsite =>
    "Company".toList
  | currentDate => "General".toList

/-- The value of a field; **a missing record leaves its fields empty**. -/
def value (ctx : Context) : Scalar → Value
  | clientName => .ofOption .text (ctx.client.map (·.name))
  | clientEmail => .ofOption .text (ctx.client.bind (·.email))
  | clientPhone => .ofOption .text (ctx.client.bind (·.phone))
  | clientAddress => .ofOption .text (ctx.client.bind (·.address))
  | clientPan => .ofOption .text (ctx.client.bind (·.panNo))
  | clientAadhaar => .ofOption .text (ctx.client.bind (·.aadhaarNo))
  | projectName => .ofOption .text (ctx.project.map (·.name))
  | projectAddress => .ofOption .text (ctx.project.bind (·.address))
  | projectDescription => .ofOption .text (ctx.project.bind (·.description))
  | projectStartDate => .ofOption .date (ctx.project.bind (·.startDate))
  | projectEndDate => .ofOption .date (ctx.project.bind (·.endDate))
  | projectBudget => .ofOption .price (ctx.project.bind (·.budget))
  | projectStatus => .ofOption .text (ctx.project.bind (·.status))
  | flatNo => .ofOption .text (ctx.flat.map (·.flatNo))
  | flatType => .ofOption .text (ctx.flat.bind (·.flatType))
  | flatFloor => .ofOption .text (ctx.flat.bind (·.floorNo))
  | flatArea => .ofOption .number (ctx.flat.bind (·.areaSqft))
  | flatValue => .ofOption .price (ctx.flat.bind (·.flatValue))
  | flatStatus => .ofOption .text (ctx.flat.bind (·.status))
  | companyName => .ofOption .text (ctx.company.map (·.name))
  | companyAddress => .ofOption .text (ctx.company.bind (·.address))
  | companyPhone => .ofOption .text (ctx.company.bind (·.phone))
  | companyEmail => .ofOption .text (ctx.company.bind (·.email))
  | companyGstin => .ofOption .text (ctx.company.bind (·.gstin))
  | companyWebsite => .ofOption .text (ctx.company.bind (·.website))
  | currentDate => .date ctx.today

end Scalar

/-- One field of the payment that a document is about. -/
inductive CurrentField where
  | amount
  | date
  | description
  deriving DecidableEq, Repr

namespace CurrentField

/-- Every field, in the order in which they are listed. -/
def all : List CurrentField := [amount, date, description]

/-- The name of a field. -/
def name : CurrentField → Text
  | amount => "AMOUNT".toList
  | date => "DATE".toList
  | description => "DESCRIPTION".toList

/-- The field with the given name. -/
def ofName? (n : Text) : Option CurrentField := all.find? (·.name = n)

theorem ofName?_name (f : CurrentField) : ofName? f.name = some f := by
  cases f <;> decide

/-- The value of a field. -/
def value (ctx : Context) : CurrentField → Value
  | amount => .ofOption .amount (ctx.current.bind (·.amount))
  | date => .ofOption .date (ctx.current.bind (·.date))
  | description => .ofOption .text (ctx.current.bind (·.description))

end CurrentField

end Conveyance
