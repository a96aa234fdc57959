import Conveyance.Files.Fault

/-!
# Compiler/Fault — why there is no compiled document

A compilation ends without a document because its private directory or its source could not be
written, because the compiler could not be started or failed, or because it succeeded and left
nothing behind.  A compiler that is killed has no exit code and **counts as code -1**.
-/

namespace Conveyance

/-- Why there is no compiled document. -/
inductive CompileFault where
  /-- There is no private directory. -/
  | directory (fault : FileFault)
  /-- The source or an attachment cannot be written. -/
  | source (fault : FileFault)
  /-- The compiler cannot be started. -/
  | start (fault : FileFault)
  /-- The compiler fails. -/
  | exit (code : Int)
  /-- The compiler succeeds and leaves no document. -/
  | noDocument (fault : FileFault)
  /-- The compilation is broken off. -/
  | brokenOff (text : Text)
  deriving DecidableEq, Repr

namespace CompileFault

/-- The fault in words. -/
def message : CompileFault → Text
  | directory f => "failed to create temporary directory: ".toList ++ f.message
  | source f => "failed to write Typst source: ".toList ++ f.message
  | start f => "Typst CLI execution failed: ".toList ++ f.message
  | exit code => "Typst CLI exited with status ".toList ++ Text.ofInt code
  | noDocument f => "failed to read generated PDF: ".toList ++ f.message
  | brokenOff t => "render task failed: ".toList ++ t

end CompileFault

end Conveyance
