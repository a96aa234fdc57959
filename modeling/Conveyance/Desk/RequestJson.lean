import Conveyance.Desk.Request
import Conveyance.Json.Reader

/-!
# Desk/RequestJson — requests read from JSON and written back

A request is an object with fixed names.  Fields with other names are passed over, but **a field
with a fixed name may stand only once**, and a number anywhere in the request has to be within the
range of double precision.  A word may also be written as the name of an object's only member, null.
-/

namespace Conveyance

/-- The members of an object. -/
abbrev Members := List (Text × Json)

namespace Members

/-- The value of a field that stands at most once; `none` when it is repeated. -/
def only? (ms : Members) (name : String) : Option (Option Json) :=
  match ms.filter (·.1 = name.toList) with
  | [] => some none
  | [(_, value)] => some (some value)
  | _ => none

/-- A field that may be left out or null, read by `f`. -/
def optional? {α : Type} (ms : Members) (name : String) (f : Json → Option α) :
    Option (Option α) := do
  match ← ms.only? name with
  | none | some .null => some none
  | some value => (f value).map some

/-- A field that has to stand there, read by `f`. -/
def required? {α : Type} (ms : Members) (name : String) (f : Json → Option α) : Option α := do
  f (← ← ms.only? name)

end Members

/-! ## Parts of requests -/

/-- A word, written as a text or as the name of a null member. -/
def Json.word? : Json → Option Text
  | .string t => some t
  | .object [(name, .null)] => some name
  | _ => none

/-- The kind of document. -/
def DocumentType.ofMembers? (ms : Members) : Option DocumentType :=
  ms.required? "document_type" fun j => j.word?.bind ofName?

namespace Targets

/-- The targets of a request. -/
def ofMembers? (ms : Members) : Option Targets := do
  return { client := ← ms.optional? "client_id" Json.id?,
           project := ← ms.optional? "project_id" Json.id?,
           flat := ← ms.optional? "unit_id" Json.id?,
           company := ← ms.optional? "company_id" Json.id?,
           request := ← ms.optional? "payment_request_id" Json.id?,
           receipt := ← ms.optional? "payment_receipt_id" Json.id? }

/-- A number that may be null. -/
def itemId? : Json → Option (Option Int)
  | .null => some none
  | j => j.id?.map some

/-- Targets that stand alone: an object, or an array of the first few numbers in their order. -/
def ofJson? : Json → Option Targets
  | .object ms => ofMembers? ms
  | .array items =>
    if items.length ≤ 6 then
      (items.mapM itemId?).map fun ids =>
        let nth := fun i => (ids[i]?).join
        { client := nth 0, project := nth 1, flat := nth 2, company := nth 3, request := nth 4,
          receipt := nth 5 }
    else none
  | _ => none

/-- The members that targets are written as. -/
def members (t : Targets) : List (String × Json) :=
  [("client_id", .ofOption .ofInt t.client), ("project_id", .ofOption .ofInt t.project),
    ("unit_id", .ofOption .ofInt t.flat), ("company_id", .ofOption .ofInt t.company),
    ("payment_request_id", .ofOption .ofInt t.request),
    ("payment_receipt_id", .ofOption .ofInt t.receipt)]

end Targets

/-- The choice of letterhead, blank when it is left out. -/
def LetterheadChoice.ofMembers? (ms : Members) : Option LetterheadChoice := do
  match ← ms.only? "letterhead" with
  | none => some .blank
  | some value => value.word?.bind ofName?

/-! ## Whole requests -/

/-- The members of a request. -/
def Json.requestMembers? (j : Json) : Option Members :=
  if j.numbersInRange then j.object? else none

namespace GenerateRequest

/-- A request for a finished document, read from a value. -/
def ofJson? (j : Json) : Option GenerateRequest := do
  let ms ← j.requestMembers?
  return { template := ← ms.required? "template_id" Json.id?,
           documentType := ← DocumentType.ofMembers? ms,
           targets := ← Targets.ofMembers? ms,
           letterhead := ← LetterheadChoice.ofMembers? ms,
           letterheadCompany := ← ms.optional? "letterhead_company_id" Json.id? }

/-- **A request for a finished document, read from text.** -/
def read? (t : Text) : Option GenerateRequest := (Json.read? t).bind ofJson?

/-- A request with all its fields. -/
def json (r : GenerateRequest) : Json :=
  .record <| [("template_id", .ofInt r.template), ("document_type", .string r.documentType.name)] ++
    r.targets.members ++
    [("letterhead", .string r.letterhead.name),
      ("letterhead_company_id", .ofOption .ofInt r.letterheadCompany)]

end GenerateRequest

namespace PreviewRequest

/-- A request for a preview, read from a value. -/
def ofJson? (j : Json) : Option PreviewRequest := do
  let ms ← j.requestMembers?
  return { template := ← ms.optional? "template_id" Json.id?,
           content := ← ms.optional? "content" Json.string?,
           documentType := ← DocumentType.ofMembers? ms,
           targets := ← Targets.ofMembers? ms }

/-- **A request for a preview, read from text.** -/
def read? (t : Text) : Option PreviewRequest := (Json.read? t).bind ofJson?

/-- A request with all its fields. -/
def json (r : PreviewRequest) : Json :=
  .record <| [("template_id", .ofOption .ofInt r.template),
    ("content", .ofOption .string r.content), ("document_type", .string r.documentType.name)] ++
    r.targets.members

end PreviewRequest

end Conveyance
