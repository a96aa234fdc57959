import Conveyance.Files.Fault
import Conveyance.Text.Path

/-!
# Files/Tree — files and directories by their place

A `FileTree` holds a node for every place that is taken; a place is the list of names that leads to it
from the root, and **the root is always a directory**.  `Spot` is where the text of a path leads: a
directory that exists and a name in it, which need not exist.
-/

namespace Conveyance

/-- What lies at a place. -/
inductive Node where
  | file (bytes : List UInt8) (runnable : Bool)
  | directory
  deriving DecidableEq, Repr

/-- The names that lead to a place from the root. -/
abbrev Location := List Text

/-- Files and directories. -/
structure FileTree where
  entries : List (Location × Node) := []
  /-- The directory from which relative paths start. -/
  here : Location := []
  deriving DecidableEq, Repr

namespace FileTree

/-! ## Places -/

/-- The node at a place. -/
def node? (t : FileTree) (p : Location) : Option Node :=
  if p = [] then some .directory else (t.entries.find? (·.1 = p)).map (·.2)

/-- The tree with another node at a place. -/
def put (t : FileTree) (p : Location) (n : Node) : FileTree :=
  { t with entries := t.entries.filter (·.1 != p) ++ [(p, n)] }

/-- The tree without the node at a place. -/
def erase (t : FileTree) (p : Location) : FileTree :=
  { t with entries := t.entries.filter (·.1 != p) }

theorem find?_filter_ne (entries : List (Location × Node)) {p q : Location} (h : q ≠ p) :
    (entries.filter (·.1 != p)).find? (·.1 = q) = entries.find? (·.1 = q) := by
  rw [List.find?_filter]
  congr 1
  funext e
  by_cases hq : e.1 = q <;> simp [hq, h]

theorem find?_filter_self (entries : List (Location × Node)) (p : Location) :
    (entries.filter (·.1 != p)).find? (·.1 = p) = none := by
  simp [List.find?_eq_none]

/-- **A node that is put somewhere is found there.** -/
theorem node?_put_self (t : FileTree) {p : Location} (n : Node) (h : p ≠ []) :
    (t.put p n).node? p = some n := by
  rw [node?, if_neg h, put, List.find?_append, find?_filter_self]
  simp

theorem node?_put_of_ne (t : FileTree) {p q : Location} (n : Node) (h : q ≠ p) :
    (t.put p n).node? q = t.node? q := by
  rw [node?, node?, put, List.find?_append, find?_filter_ne t.entries h]
  simp [Ne.symm h]

theorem node?_erase_self (t : FileTree) {p : Location} (h : p ≠ []) :
    (t.erase p).node? p = none := by
  rw [node?, if_neg h, erase, find?_filter_self]
  rfl

theorem node?_erase_of_ne (t : FileTree) {p q : Location} (h : q ≠ p) :
    (t.erase p).node? q = t.node? q := by
  rw [node?, node?, erase, find?_filter_ne t.entries h]

/-- The tree without a place and those below it. -/
def prune (t : FileTree) (p : Location) : FileTree :=
  { t with entries := t.entries.filter fun e => !p.isPrefixOf e.1 }

theorem node?_prune_of_below (t : FileTree) {p q : Location} (hp : p ≠ []) (h : p <+: q) :
    (t.prune p).node? q = none := by
  have hq : q ≠ [] := by
    rintro rfl
    exact hp (List.prefix_nil.1 h)
  rw [node?, if_neg hq, prune, Option.map_eq_none_iff, List.find?_eq_none]
  rintro e he heq
  obtain rfl : e.1 = q := by simpa using heq
  have hkept := (List.mem_filter.1 he).2
  rw [List.isPrefixOf_iff_prefix.2 h] at hkept
  cases hkept

theorem node?_prune_of_not_below (t : FileTree) {p q : Location} (h : ¬p <+: q) :
    (t.prune p).node? q = t.node? q := by
  rw [node?, node?, prune, List.find?_filter]
  congr 3
  funext e
  by_cases hq : e.1 = q
  · subst hq
    have hbegins : p.isPrefixOf e.1 = false := by
      rwa [← Bool.not_eq_true, List.isPrefixOf_iff_prefix]
    simp [hbegins]
  · simp [hq]

/-- The places below a directory, each by the names that lead to it from there. -/
def below (t : FileTree) (dir : Location) : List (Location × Node) :=
  t.entries.filterMap fun (p, n) =>
    if dir.isPrefixOf p && dir.length < p.length then some (p.drop dir.length, n) else none

/-! ## Paths -/

/-- The longest name, in bytes. -/
def longestName : Nat := 255

/-- The length, in bytes, that a path stays below. -/
def pathLimit : Nat := 4096

/-- Where a path leads. -/
structure Spot where
  /-- A directory that exists. -/
  directory : Location
  /-- The name in it; a path of dots, or the root, ends at the directory itself. -/
  name? : Option Text
  /-- A slash at the end of the path asks for a directory. -/
  slash : Bool
  deriving DecidableEq, Repr

/-- One step from a directory that exists. -/
def step (t : FileTree) (dir : Location) (name : Text) : Except FileFault Location :=
  if name = ['.'] then .ok dir
  else if name = ['.', '.'] then .ok dir.dropLast
  else if longestName < Text.utf8Length name then .error .nameTooLong
  else match t.node? (dir ++ [name]) with
    | none => .error .noEntry
    | some (.file ..) => .error .notDirectory
    | some .directory => .ok (dir ++ [name])

/-- The names between the slashes of a path. -/
def names (path : Text) : List Text := (Text.splitOn '/' path).filter (!·.isEmpty)

/-- **Where a path leads**: every step but the last has to lead to a directory. -/
def spot (t : FileTree) (path : Text) : Except FileFault Spot :=
  if path.contains (Char.ofNat 0) then .error .nul
  else if path.isEmpty then .error .noEntry
  else if pathLimit ≤ Text.utf8Length path then .error .nameTooLong
  else do
    let start := if Path.isAbsolute path then [] else t.here
    match (names path).getLast? with
    | none => return ⟨start, none, true⟩
    | some last =>
      let dir ← (names path).dropLast.foldlM t.step start
      if last = ['.'] || last = ['.', '.'] then return ⟨← t.step dir last, none, true⟩
      else if longestName < Text.utf8Length last then throw .nameTooLong
      else return ⟨dir, some last, path.getLast? = some '/'⟩

/-- The place of a spot. -/
def Spot.location (s : Spot) : Location := s.directory ++ s.name?.toList

end FileTree

end Conveyance
