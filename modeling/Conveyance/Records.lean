import Conveyance.Calendar.Instant
import Conveyance.Number.Decimal

/-!
# Records — the estate records a document is drawn from

Templates, clients, projects, units, companies and the five listed kinds of record.  Documents only
ever read them.  What may be absent is an `Option`; an identifier is a whole number that a record of
the registry carries only once.
-/

namespace Conveyance

/-- A text with placeholders and markup, written by a user. -/
structure Template where
  id : Int
  name : Text
  content : Text
  createdAt : Option Instant := none
  updatedAt : Option Instant := none
  deriving DecidableEq

/-- The person or firm a document is made out to. -/
structure Client where
  id : Int
  name : Text
  email : Option Text := none
  phone : Option Text := none
  address : Option Text := none
  panNo : Option Text := none
  aadhaarNo : Option Text := none
  deriving DecidableEq

/-- A building project. -/
structure Project where
  id : Int
  name : Text
  address : Option Text := none
  description : Option Text := none
  startDate : Option Date := none
  endDate : Option Date := none
  budget : Option Decimal := none
  status : Option Text := none
  deriving DecidableEq

/-- A flat of a project. -/
structure Flat where
  id : Int
  projectId : Option Int := none
  clientId : Option Int := none
  flatNo : Text
  flatType : Option Text := none
  floorNo : Option Text := none
  areaSqft : Option Decimal := none
  flatValue : Option Decimal := none
  status : Option Text := none
  deriving DecidableEq

/-- The company that issues a document. -/
structure Company where
  id : Int
  name : Text
  address : Option Text := none
  phone : Option Text := none
  email : Option Text := none
  gstin : Option Text := none
  website : Option Text := none
  /-- Where the image of its letterhead lies. -/
  letterheadPath : Option Text := none
  deriving DecidableEq

/-- A stage of a project's construction. -/
structure Milestone where
  id : Int
  projectId : Int
  srNo : Option Int := none
  name : Text
  description : Option Text := none
  completion : Option Decimal := none
  status : Option Text := none
  targetDate : Option Date := none
  deriving DecidableEq

/-- An instalment agreed for a unit. -/
structure Schedule where
  id : Int
  unitId : Option Int := none
  srNo : Option Int := none
  description : Option Text := none
  percentage : Option Decimal := none
  amount : Option Decimal := none
  dueDate : Option Date := none
  status : Option Text := none
  deriving DecidableEq

/-- A demand for payment. -/
structure PaymentRequest where
  id : Int
  clientId : Option Int := none
  projectId : Option Int := none
  unitId : Option Int := none
  description : Option Text := none
  amount : Option Decimal := none
  requestDate : Option Date := none
  dueDate : Option Date := none
  status : Option Text := none
  deriving DecidableEq

/-- A payment received. -/
structure PaymentReceipt where
  id : Int
  clientId : Option Int := none
  projectId : Option Int := none
  unitId : Option Int := none
  description : Option Text := none
  amount : Option Decimal := none
  receiptDate : Option Date := none
  paymentMethod : Option Text := none
  referenceNo : Option Text := none
  deriving DecidableEq

/-- An amount still owed. -/
structure PendingPayment where
  id : Int
  description : Option Text := none
  amount : Option Decimal := none
  dueDate : Option Date := none
  status : Option Text := none
  deriving DecidableEq

end Conveyance
