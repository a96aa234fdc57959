import Conveyance.Desk.RequestJson
import Conveyance.Desk.ResultJson

/-!
# Desk/Route — the desk behind an HTTP interface

Three addresses lead to the desk: documents, previews and the list of placeholders.  An unknown address
is not found, a wrong method is not allowed, and **a body has to be declared as JSON and be a
request** before the desk sees it.  Faults are answered with a status of their kind.
-/

namespace Conveyance

/-- What is asked over HTTP. -/
structure Inquiry where
  method : Text
  uri : Text
  contentType : Option Text := none
  body : Text := []
  deriving DecidableEq, Repr

/-- What is answered: a status and, except for refusals of the interface itself, a value. -/
structure Response where
  status : Nat
  body : Option Json := none

/-- The addresses of the desk. -/
inductive Route where
  | generate
  | preview
  | placeholders
  deriving DecidableEq, Repr

namespace Route

/-- The path of an address. -/
def path : Route → String
  | generate => "/api/documents/generate"
  | preview => "/api/documents/preview"
  | placeholders => "/api/documents/placeholders"

/-- The method of an address. -/
def method : Route → String
  | placeholders => "GET"
  | _ => "POST"

/-- A path with the characters put back that are written as a percent sign and two digits of base
sixteen, except for slashes, plus signs and percent signs. -/
def plainPath : Text → Text
  | [] => []
  | '%' :: a :: b :: t =>
    match Json.hexValue? a, Json.hexValue? b with
    | some m, some n =>
      let c := Char.ofNat (16 * m + n)
      if 16 * m + n < 128 && c != '/' && c != '+' && c != '%' then c :: plainPath t
      else '%' :: plainPath (a :: b :: t)
    | _, _ => '%' :: plainPath (a :: b :: t)
  | c :: t => c :: plainPath t

/-- The address with the given path; what follows a question mark or a number sign is no part of it. -/
def ofUri? (uri : Text) : Option Route :=
  let path := plainPath (uri.takeWhile fun c => c != '?' && c != '#')
  [generate, preview, placeholders].find? (·.path.toList = path)

end Route

namespace Inquiry

/-- A text before its last plus sign, and what follows it. -/
def cutSuffix (t : Text) : Text × Text :=
  if t.contains '+' then
    let after := (t.reverse.takeWhile (· != '+')).reverse
    (t.take (t.length - after.length - 1), after)
  else (t, [])

/-- The character may stand in the name of a media type. -/
def isMediaChar (c : Char) : Bool :=
  c.isAlphanum || "!#$&-^_.+".toList.contains c

/-- **The media type is one of JSON**: its name or its suffix says so, whatever its case. -/
def isJsonType (t : Text) : Bool :=
  let plain := Text.asciiLower (Text.trim (t.takeWhile (· != ';')))
  let type := plain.takeWhile (· != '/')
  match plain.dropWhile (· != '/') with
  | '/' :: subtype =>
    let (name, suffix) := cutSuffix subtype
    !type.isEmpty && type.all isMediaChar && subtype.all isMediaChar &&
      (name = "json".toList || suffix = "json".toList)
  | _ => false

/-- The body, read as a request, when it is declared as JSON. -/
def request? {α : Type} (i : Inquiry) (read : Text → Option α) : Option α :=
  if i.contentType.any isJsonType then read i.body else none

end Inquiry

namespace Response

/-- The status and the name of a fault. -/
def ofKind : DocumentFault → Nat × String
  | .invalid _ => (400, "BadRequest")
  | .noTemplate _ => (404, "NotFound")
  | _ => (500, "InternalServerError")

/-- The answer to a fault. -/
def ofFault (f : DocumentFault) : Response where
  status := (ofKind f).1
  body := some (.record [("error", .literal (ofKind f).2), ("message", .string f.message)])

/-- The answer to an outcome. -/
def ofOutcome {α : Type} (json : α → Json) : Except DocumentFault α → Response
  | .ok a => { status := 200, body := some (json a) }
  | .error f => ofFault f

end Response

namespace Desk

/-- A request carried out, or refused when it cannot be read. -/
def carryOut {ρ α : Type} (request : Option ρ) (act : ρ → Drafting α) (json : α → Json) :
    Errand Response :=
  match request with
  | none => .done { status := 400 }
  | some r => (act r).run.bind fun outcome => .done (.ofOutcome json outcome)

/-- **An inquiry answered.** -/
def serve (desk : Desk) (occasion : Occasion) (i : Inquiry) : Errand Response :=
  match Route.ofUri? i.uri with
  | none => .done { status := 404 }
  | some route =>
    if route.method.toList != i.method then .done { status := 405 }
    else match route with
      | .generate => carryOut (i.request? GenerateRequest.read?) (desk.generate occasion) (·.json)
      | .preview => carryOut (i.request? PreviewRequest.read?) (desk.preview occasion.today) (·.json)
      | .placeholders =>
        .done { status := 200, body := some (.array (listing.map ListingEntry.json)) }

end Desk

end Conveyance
