import Conveyance.Desk.Call
import Conveyance.Desk.Fault

/-!
# Desk/Assemble — the records of one document gathered from the registry

`assemble` makes one call for each target that is named, always in the same order, and puts the
answers into a context.  **Targets that no record can have are not looked up at all**: the document
is drafted with blanks.  Payments are listed only within a scope, never all of them.
-/

namespace Conveyance

/-- A course of action of the desk that may end with a fault. -/
abbrev Drafting := ExceptT DocumentFault Errand

namespace Drafting

/-- One call, whose reply decides how to go on. -/
def ask {α : Type} (c : Call) (decide : c.Reply → Except DocumentFault α) : Drafting α :=
  ExceptT.mk (.call c fun reply => .done (decide reply))

/-- A question to the registry. -/
def look {α : Type} (c : Call) (answer : c.Reply → Except Text α) : Drafting α :=
  ask c fun reply => (answer reply).mapError .records

/-- A question to the registry about a record that may not be named. -/
def lookUp {α : Type} (id? : Option Int) (c : Int → Call)
    (answer : ∀ n, (c n).Reply → Except Text (Option α)) : Drafting (Option α) :=
  match id? with
  | some n => look (c n) (answer n)
  | none => pure none

/-- A question to the registry about the records of one that may not be named. -/
def list {α : Type} (id? : Option Int) (c : Int → Call)
    (answer : ∀ n, (c n).Reply → Except Text (List α)) : Drafting (List α) :=
  match id? with
  | some n => look (c n) (answer n)
  | none => pure []

/-- A question to the registry about payments, unless there is nothing that narrows them. -/
def within {α : Type} (scope : Scope) (c : Scope → Call)
    (answer : ∀ s, (c s).Reply → Except Text (List α)) : Drafting (List α) :=
  if scope.isUnbounded then pure [] else look (c scope) (answer scope)

/-- The payment that a document is about, which depends on the kind of document. -/
def current (type : DocumentType) (t : Targets) : Drafting (Option CurrentRecord) :=
  match type with
  | .agreement => pure none
  | .paymentRequest => do
    return (← lookUp t.request .request fun _ => id).map CurrentRecord.request
  | .paymentReceipt => do
    return (← lookUp t.receipt .receipt fun _ => id).map CurrentRecord.receipt

/-- **The context of a document.** -/
def assemble (type : DocumentType) (t : Targets) (today : Date) : Drafting Context :=
  if t.arePossible then do
    let client ← lookUp t.client .client fun _ => id
    let project ← lookUp t.project .project fun _ => id
    let flat ← lookUp t.flat .flat fun _ => id
    let company ← lookUp t.company .company fun _ => id
    let milestones ← list t.project .milestones fun _ => id
    let schedules ← list t.flat .schedules fun _ => id
    let scope := Scope.ofTargets t
    let requests ← within scope .requests fun _ => id
    let receipts ← within scope .receipts fun _ => id
    let pending ← within scope .pending fun _ => id
    let current ← current type t
    return { documentType := type, today, client, project, flat, company, milestones, schedules,
             requests, receipts, pending, current }
  else pure (Context.empty type today)

end Drafting

end Conveyance
