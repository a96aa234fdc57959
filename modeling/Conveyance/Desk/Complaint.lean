import Conveyance.Desk.Request
import Conveyance.Text.LetterCase

/-!
# Desk/Complaint — what is wrong with a request

A `Complaint` names a field, says what is wrong with it and may say how to put it right.  A request
without complaints is accepted; otherwise **all of its complaints are reported at once**.
-/

namespace Conveyance

/-- What is wrong with one field of a request. -/
structure Complaint where
  field : Text
  message : Text
  suggestion : Option Text := none
  deriving DecidableEq, Repr

namespace Complaint

/-- The number of the thing called `label` is not above zero. -/
def notPositive (field label : Text) : Complaint where
  field
  message := label ++ " must be a positive id".toList
  suggestion := some ("Pick an existing ".toList ++ Text.lower label)

/-- The thing called `label` is missing. -/
def missing (field label : Text) : Complaint where
  field
  message := label ++ " is required".toList

/-- The complaint about a number, if there is one. -/
def ofId (id : Int) (field label : Text) : List Complaint :=
  if 0 < id then [] else [notPositive field label]

/-- The complaint about a number that may be left out. -/
def ofOptionalId (id : Option Int) (field label : Text) : List Complaint :=
  match id with
  | some id => ofId id field label
  | none => []

/-- A complaint in words. -/
def text (c : Complaint) : Text :=
  '[' :: c.field ++ "] ".toList ++ c.message ++
    match c.suggestion with
    | some s => ". ".toList ++ s
    | none => []

/-- Complaints in words. -/
def texts (cs : List Complaint) : Text := Text.join "; ".toList (cs.map text)

end Complaint

/-- The field that names the company of the letterhead. -/
def letterheadField : Text := "letterhead_company_id".toList

/-- The field that names the template. -/
def templateField : Text := "template_id".toList

/-- **The complaints about a request for a finished document.** -/
def GenerateRequest.complaints (r : GenerateRequest) : List Complaint :=
  Complaint.ofId r.template templateField "Template".toList ++
  Complaint.ofOptionalId r.letterheadCompany letterheadField "Letterhead company".toList ++
  if r.letterhead = .company && r.headCompany.isNone then
    [{ Complaint.missing letterheadField "Letterhead company".toList with
        suggestion :=
          some "Pass letterhead_company_id or company_id, or use letterhead \"none\"".toList }]
  else []

/-- **The complaints about a request for a preview**: it has a template or a text, and not both. -/
def PreviewRequest.complaints (r : PreviewRequest) : List Complaint :=
  match r.template, r.content with
  | some _, some _ =>
    [{ field := "content".toList,
       message := "Pass either template_id or content, not both".toList }]
  | none, none => [Complaint.missing templateField "Template id or content".toList]
  | id, _ => Complaint.ofOptionalId id templateField "Template".toList

end Conveyance
