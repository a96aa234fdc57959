import Conveyance.Compiler.Fault
import Conveyance.Desk.Request
import Conveyance.Procedure
import Conveyance.Typst.Document

/-!
# Desk/Call — what the desk asks of others

To draft a document the desk asks the registry for records, the file system for the image of a
letterhead, the compiler for a document and the store to keep it.  Each question is a `Call`, and
`Call.Reply` is the type of its answers.  **Every call may fail**, except that an unreadable image is
no failure of its own.
-/

namespace Conveyance

/-- What the desk asks of others. -/
inductive Call where
  | template (id : Int)
  | client (id : Int)
  | project (id : Int)
  | flat (id : Int)
  | company (id : Int)
  | milestones (project : Int)
  | schedules (flat : Int)
  | requests (scope : Scope)
  | receipts (scope : Scope)
  | pending (scope : Scope)
  | request (id : Int)
  | receipt (id : Int)
  /-- The bytes of the image at a path. -/
  | image (path : Text)
  /-- A directory to work in. -/
  | workDirectory
  /-- The document compiled into a file of the work directory. -/
  | compile (name : Text) (document : TypstDocument)
  /-- The bytes of a file of the work directory. -/
  | read (name : Text)
  /-- An object put into the store, in the place of one of the same name. -/
  | upload (object : Text) (bytes : List UInt8)
  | delete (object : Text)
  deriving DecidableEq

namespace Call

/-- The answers to a call.  A registry and a store report failures in words. -/
def Reply : Call → Type
  | template _ => Except Text (Option Template)
  | client _ => Except Text (Option Client)
  | project _ => Except Text (Option Project)
  | flat _ => Except Text (Option Flat)
  | company _ => Except Text (Option Company)
  | milestones _ => Except Text (List Milestone)
  | schedules _ => Except Text (List Schedule)
  | requests _ => Except Text (List PaymentRequest)
  | receipts _ => Except Text (List PaymentReceipt)
  | pending _ => Except Text (List PendingPayment)
  | request _ => Except Text (Option PaymentRequest)
  | receipt _ => Except Text (Option PaymentReceipt)
  | image _ => Except FileFault (List UInt8)
  | workDirectory => Except FileFault Unit
  | compile _ _ => Except CompileFault Unit
  | read _ => Except FileFault (List UInt8)
  | upload _ _ => Except Text Unit
  | delete _ => Except Text Unit

end Call

/-- **A course of action of the desk.** -/
abbrev Errand := Procedure Call Call.Reply

end Conveyance
