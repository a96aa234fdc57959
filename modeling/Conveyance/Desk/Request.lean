import Conveyance.Context

/-!
# Desk/Request — what a document is asked for with

A request names a template, the kind of document and the records it is for, its `Targets`; a request
for a finished document also chooses the letterhead.  **Any target may be missing**, and a number
that no record can carry is a request all the same.
-/

namespace Conveyance

/-- The records that a document is for. -/
structure Targets where
  client : Option Int := none
  project : Option Int := none
  flat : Option Int := none
  company : Option Int := none
  request : Option Int := none
  receipt : Option Int := none
  deriving DecidableEq, Repr

namespace Targets

/-- The numbers of all six targets. -/
def ids (t : Targets) : List (Option Int) :=
  [t.client, t.project, t.flat, t.company, t.request, t.receipt]

/-- **No target is given by a number that no record carries**: records are numbered from one. -/
def arePossible (t : Targets) : Bool := t.ids.all fun id => id.all (0 < ·)

end Targets

/-- The payments that are listed: those of a client, of a project, of a flat, or of several of them
at once. -/
structure Scope where
  client : Option Int := none
  project : Option Int := none
  flat : Option Int := none
  deriving DecidableEq, Repr

namespace Scope

/-- The payments of a document's targets. -/
def ofTargets (t : Targets) : Scope := { client := t.client, project := t.project, flat := t.flat }

/-- Nothing narrows the scope, so it would list every payment there is. -/
def isUnbounded (s : Scope) : Bool := s.client.isNone && s.project.isNone && s.flat.isNone

end Scope

/-- What is printed at the top of a document's pages. -/
inductive LetterheadChoice where
  | blank
  | company
  deriving DecidableEq, Repr

namespace LetterheadChoice

/-- The name of a choice. -/
def name : LetterheadChoice → Text
  | blank => "none".toList
  | company => "company".toList

/-- The choice with the given name. -/
def ofName? (n : Text) : Option LetterheadChoice := [blank, company].find? (·.name = n)

end LetterheadChoice

/-- A request for a finished document. -/
structure GenerateRequest where
  template : Int
  documentType : DocumentType
  targets : Targets := {}
  letterhead : LetterheadChoice := .blank
  letterheadCompany : Option Int := none
  deriving DecidableEq, Repr

/-- The company whose letterhead is printed: one that is named for it, or the target. -/
def GenerateRequest.headCompany (r : GenerateRequest) : Option Int :=
  r.letterheadCompany.or r.targets.company

/-- A request to see a template, or a text that is not stored yet, filled in. -/
structure PreviewRequest where
  template : Option Int := none
  content : Option Text := none
  documentType : DocumentType
  targets : Targets := {}
  deriving DecidableEq, Repr

end Conveyance
