import Conveyance.Compiler.Fault
import Conveyance.Desk.Complaint

/-!
# Desk/Fault — why a request ends without a document

A request ends without a document when it is not accepted or when one of the calls made for it fails;
**the first failing step decides the fault**.  Gaps in the records are no fault.
-/

namespace Conveyance

/-- Why a request ends without a document. -/
inductive DocumentFault where
  | invalid (complaints : List Complaint)
  | noTemplate (id : Int)
  /-- The registry fails. -/
  | records (text : Text)
  /-- A total leaves the range of decimals. -/
  | overflow
  /-- There is no directory to work in. -/
  | workDirectory (fault : FileFault)
  | compile (fault : CompileFault)
  /-- The compiled document cannot be read. -/
  | read (fault : FileFault)
  /-- The store fails. -/
  | store (text : Text)
  deriving DecidableEq, Repr

namespace DocumentFault

/-- The fault in words. -/
def message : DocumentFault → Text
  | invalid complaints => Complaint.texts complaints
  | noTemplate id => "template ".toList ++ Text.ofInt id ++ " not found".toList
  | records t => "failed to load document data: ".toList ++ t
  | overflow => "Addition overflowed".toList
  | workDirectory f => (CompileFault.directory f).message
  | compile f => f.message
  | read f => (CompileFault.noDocument f).message
  | store t => "failed to share document: ".toList ++ t

end DocumentFault

end Conveyance
