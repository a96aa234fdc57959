import Conveyance.Records

/-!
# Context — what one document is drawn from

A `Context` is the snapshot of records that a single document reads: at most one client, project,
flat and company, the five listed collections, and the payment that the document is about.
**Anything may be missing**; what is missing leaves blanks.
-/

namespace Conveyance

/-- The kinds of document. -/
inductive DocumentType where
  | agreement
  | paymentRequest
  | paymentReceipt
  deriving DecidableEq, Repr

namespace DocumentType

/-- Every kind of document. -/
def all : List DocumentType := [agreement, paymentRequest, paymentReceipt]

/-- The name of a kind of document. -/
def name : DocumentType → Text
  | agreement => "agreement".toList
  | paymentRequest => "payment_request".toList
  | paymentReceipt => "payment_receipt".toList

/-- The kind of document with the given name. -/
def ofName? (n : Text) : Option DocumentType := all.find? (·.name = n)

end DocumentType

/-- The payment that a document is about. -/
inductive CurrentRecord where
  | request (record : PaymentRequest)
  | receipt (record : PaymentReceipt)
  deriving DecidableEq

namespace CurrentRecord

/-- The amount of the payment. -/
def amount : CurrentRecord → Option Decimal
  | request r => r.amount
  | receipt r => r.amount

/-- The day of the payment. -/
def date : CurrentRecord → Option Date
  | request r => r.requestDate
  | receipt r => r.receiptDate

/-- What the payment is for. -/
def description : CurrentRecord → Option Text
  | request r => r.description
  | receipt r => r.description

end CurrentRecord

/-- **What one document is drawn from.** -/
structure Context where
  documentType : DocumentType
  /-- The day the document is made on. -/
  today : Date
  client : Option Client := none
  project : Option Project := none
  flat : Option Flat := none
  company : Option Company := none
  milestones : List Milestone := []
  schedules : List Schedule := []
  requests : List PaymentRequest := []
  receipts : List PaymentReceipt := []
  pending : List PendingPayment := []
  current : Option CurrentRecord := none
  deriving DecidableEq

/-- A context without any record. -/
def Context.empty (documentType : DocumentType) (today : Date) : Context := { documentType, today }

end Conveyance
