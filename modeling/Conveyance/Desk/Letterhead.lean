import Conveyance.Desk.Assemble
import Conveyance.FileName

/-!
# Desk/Letterhead — the letterhead of a document

A letterhead is printed only where it is asked for.  **A company that does not exist leaves room for
printed paper, and an image that cannot be read gives way to printed lines**: neither ends the
request.  Only a failing registry does.
-/

namespace Conveyance.Drafting

/-- Where the image of a company's letterhead lies. -/
def imagePath? (company : Company) : Option Text :=
  company.letterheadPath.filter (!Text.allBlank ·)

/-- The letterhead of a company. -/
def letterheadOf (company : Company) : Drafting Letterhead :=
  match imagePath? company with
  | none => pure (.lines company)
  | some path => ask (.image path) fun
    | .ok bytes => .ok (.image { name := FileName.letterheadName path, bytes })
    | .error _ => .ok (.lines company)

/-- **The letterhead that a request asks for.** -/
def letterhead (r : GenerateRequest) : Drafting Letterhead :=
  match r.letterhead with
  | .blank => pure .blank
  | .company => do
    match ← lookUp r.headCompany .company fun _ => id with
    | none => return .blank
    | some company => letterheadOf company

end Conveyance.Drafting
