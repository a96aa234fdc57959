import Conveyance.Text.Basic

/-!
# Text/Path — file paths as text

A path is read as components between slashes: a slash at the start is the root, empty components and
inner single dots are nothing, and a dot at the start and double dots are kept.  **A slash at the end
changes no component**, so the functions here look through it; the text of a path is kept as it was
written, because it is the text that is shown and handed on.
-/

namespace Conveyance

/-- A component of a path. -/
inductive Component where
  | root
  /-- A single dot at the start of a path. -/
  | here
  /-- Double dots. -/
  | up
  | normal (name : Text)
  deriving DecidableEq, Repr

namespace Path

/-- What stands between slashes, as a component. -/
def componentOf? (part : Text) : Option Component :=
  if part.isEmpty || part = ['.'] then none
  else if part = ['.', '.'] then some .up
  else some (.normal part)

/-- **The components of a path.** -/
def components (p : Text) : List Component :=
  let parts := Text.splitOn '/' p
  let head := match p with
    | '/' :: _ => [Component.root]
    | _ => if parts.head? = some ['.'] then [Component.here] else []
  head ++ parts.filterMap componentOf?

/-- The path is absolute. -/
def isAbsolute : Text → Bool
  | '/' :: _ => true
  | _ => false

/-- A relative path below a directory; an absolute one stands by itself. -/
def joined (base p : Text) : Text :=
  if isAbsolute p then p
  else if base.isEmpty || base.getLast? = some '/' then base ++ p
  else base ++ '/' :: p

/-- Without slashes, and dots between slashes, at the end. -/
def trimmed (p : Text) : Text :=
  go p.reverse |>.reverse
where
  /-- The same on the reversed path. -/
  go : Text → Text
    | ['/'] => ['/']
    | '/' :: t => go t
    | '.' :: '/' :: t => if t.isEmpty then ['/'] else go t
    | t => t

/-- The part after the last slash of a path without slashes at its end. -/
def lastPart (p : Text) : Text := ((trimmed p).reverse.takeWhile (· != '/')).reverse

/-- **The file name of a path**, when its last component is one. -/
def fileName? (p : Text) : Option Text :=
  match (components p).getLast? with
  | some (.normal name) => some name
  | _ => none

/-- The path without its last component; the root and the empty path have no parent. -/
def parent? (p : Text) : Option Text :=
  match (components p).getLast? with
  | none => none
  | some .root => none
  | some _ =>
    let t := trimmed p
    some (trimmed (t.take (t.length - (lastPart p).length)))

/-- A file name around its last dot: what stands before it and after it.  A dot at the start only
hides a file and divides nothing. -/
def splitName (name : Text) : Text × Option Text :=
  let after := (name.reverse.takeWhile (· != '.')).reverse
  let before := name.take (name.length - after.length - 1)
  if name.contains '.' && !before.isEmpty then (before, some after) else (name, none)

/-- The extension of a path's file name. -/
def extension? (p : Text) : Option Text := (fileName? p).bind fun name => (splitName name).2

/-- **The path with another extension**; one without a file name stays as it is. -/
def withExtension (p extension : Text) : Text :=
  match fileName? p with
  | none => p
  | some name =>
    let t := trimmed p
    t.take (t.length - name.length) ++ (splitName name).1 ++ '.' :: extension

end Path

end Conveyance
