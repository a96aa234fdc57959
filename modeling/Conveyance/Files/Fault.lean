import Conveyance.Text.Numeral

/-!
# Files/Fault — why a file operation is refused

The refusals of the file system with the numbers and words they are reported by.  **A path that holds
a NUL is refused before the file system is asked**, and has no number.
-/

namespace Conveyance

/-- Why a file operation is refused. -/
inductive FileFault where
  | noEntry
  | denied
  | busy
  | occupied
  | notDirectory
  | isDirectory
  | nameTooLong
  | notEmpty
  /-- The path holds a NUL. -/
  | nul
  deriving DecidableEq, Repr

namespace FileFault

/-- The words for a fault and its number. -/
def words : FileFault → String × Option Nat
  | noEntry => ("No such file or directory", some 2)
  | denied => ("Permission denied", some 13)
  | busy => ("Device or resource busy", some 16)
  | occupied => ("File exists", some 17)
  | notDirectory => ("Not a directory", some 20)
  | isDirectory => ("Is a directory", some 21)
  | nameTooLong => ("File name too long", some 36)
  | notEmpty => ("Directory not empty", some 39)
  | nul => ("file name contained an unexpected NUL byte", none)

/-- The fault in words. -/
def message (f : FileFault) : Text :=
  match f.words with
  | (text, none) => text.toList
  | (text, some n) => text.toList ++ " (os error ".toList ++ Text.ofNat n ++ [')']

end FileFault

end Conveyance
