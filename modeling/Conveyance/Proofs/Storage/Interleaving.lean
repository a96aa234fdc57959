import Conveyance.Proofs.Files.Effect
import Mathlib.Logic.Function.Basic
import Mathlib.Logic.Relation

/-!
# Proofs/Storage/Interleaving — several courses of action on one file system

A `Task` is a course of action that has come to some point: between two requests, or in the middle of
writing to a file that it has open.  `Task.Step` says what it may do next.  A request is answered at
one go, or refused for any reason; directories come up one by one on the way to the one asked for; a
file is opened, which empties it, and **filled piece by piece**, until it is closed or the write
breaks off.  In a `Scene` tasks take their steps in any order, and an open file stays the same file
when it is moved.  What a course of action does by itself is one of these orders (`reaches_run`).
-/

namespace Conveyance

/-! ## Open files -/

/-- Where an open file lies; one that has been removed or replaced lies nowhere. -/
abbrev Handle := Option Location

/-- What a request that is granted does to an open file. -/
def FileCall.carry (here : Location) : FileCall → Handle → Handle
  | rename source target, some q =>
    if q = FileTree.locate here source then some (FileTree.locate here target)
    else if q = FileTree.locate here target then none
    else some q
  | remove path, some q => if q = FileTree.locate here path then none else some q
  | _, handle => handle

namespace FileTree

/-- What the answer to a request does to an open file. -/
def carried (t : FileTree) (c : FileCall) : Handle → Handle :=
  if Except.isOk (answer c t).1 then c.carry t.here else id

/-- Bytes with a piece put in at an offset; a gap before it is filled with zeros. -/
def spliced (content : List UInt8) (offset : Nat) (piece : List UInt8) : List UInt8 :=
  content.take offset ++ List.replicate (offset - content.length) 0 ++ piece ++
    content.drop (offset + piece.length)

/-- A piece put into an open file. -/
def splice (t : FileTree) (handle : Handle) (offset : Nat) (piece : List UInt8) : FileTree :=
  match handle with
  | none => t
  | some q =>
    match t.node? q with
    | some (.file content runnable) => t.put q (.file (spliced content offset piece) runnable)
    | _ => t

end FileTree

/-! ## Tasks -/

/-- A course of action that has come to some point. -/
inductive Task (α : Type) where
  | between (rest : FileErrand α)
  /-- A file is open for writing, and the bytes up to an offset have been written. -/
  | writing (handle : Handle) (bytes : List UInt8) (offset : Nat)
    (next : Except FileFault Unit → FileErrand α)

variable {ι α : Type}

namespace Task

/-- The task after what others have done to its open file. -/
def carry (move : Handle → Handle) : Task α → Task α
  | between rest => between rest
  | writing handle bytes offset next => writing (move handle) bytes offset next

/-- **One step of a task**: the tree and the task after it, and what becomes of open files. -/
inductive Step (t : FileTree) : Task α → FileTree → Task α → (Handle → Handle) → Prop where
  | answered (c : FileCall) (next : c.Reply → FileErrand α) :
    Step t (between (.call c next)) (FileTree.answer c t).2
      (between (next (FileTree.answer c t).1)) (t.carried c)
  | refused (c : FileCall) (next : c.Reply → FileErrand α) (f : FileFault) :
    Step t (between (.call c next)) t (between (next (.error f))) id
  /-- A directory comes up on the way to the one asked for. -/
  | directory {path q : Text} {t' : FileTree} (next : Except FileFault Unit → FileErrand α)
    (hq : Path.Above path q) (h : t.makeDirectory q = .ok t') :
    Step t (between (.call (.makeDirectories path) next)) t'
      (between (.call (.makeDirectories path) next)) id
  | opened {path : Text} {t' : FileTree} (bytes : List UInt8)
    (next : Except FileFault Unit → FileErrand α) (h : t.write path [] = .ok t') :
    Step t (between (.call (.write path bytes) next)) t'
      (writing (some (FileTree.locate t.here path)) bytes 0 next) id
  /-- Some of the bytes that are left are written. -/
  | filled (handle : Handle) {bytes : List UInt8} {offset n : Nat}
    (next : Except FileFault Unit → FileErrand α) (hn : offset + n ≤ bytes.length) :
    Step t (writing handle bytes offset next)
      (t.splice handle offset ((bytes.drop offset).take n)) (writing handle bytes (offset + n) next)
      id
  | closed (handle : Handle) (bytes : List UInt8) (next : Except FileFault Unit → FileErrand α) :
    Step t (writing handle bytes bytes.length next) t (between (next (.ok ()))) id
  | brokenOff (handle : Handle) (bytes : List UInt8) (offset : Nat)
    (next : Except FileFault Unit → FileErrand α) (f : FileFault) :
    Step t (writing handle bytes offset next) t (between (next (.error f))) id

end Task

/-! ## Scenes -/

/-- Tasks on one file system. -/
structure Scene (ι α : Type) where
  files : FileTree
  task : ι → Task α

namespace Scene

variable [DecidableEq ι]

/-- The scene after one task has come to a new point; the others keep the files that they have open. -/
def turn (s : Scene ι α) (i : ι) (t : FileTree) (task : Task α) (move : Handle → Handle) :
    Scene ι α where
  files := t
  task := Function.update (fun j => (s.task j).carry move) i task

theorem turn_task_self (s : Scene ι α) (i : ι) (t : FileTree) (task : Task α)
    (move : Handle → Handle) : (s.turn i t task move).task i = task := by
  simp [turn]

theorem turn_task_of_ne (s : Scene ι α) {i j : ι} (h : j ≠ i) (t : FileTree) (task : Task α)
    (move : Handle → Handle) : (s.turn i t task move).task j = (s.task j).carry move := by
  simp [turn, h]

/-- **One of the tasks takes a step.** -/
def Step (i : ι) (s s' : Scene ι α) : Prop :=
  ∃ t task move, Task.Step s.files (s.task i) t task move ∧ s' = s.turn i t task move

/-- Tasks take steps, in any order. -/
def Reaches : Scene ι α → Scene ι α → Prop := Relation.ReflTransGen fun s s' => ∃ i, Step i s s'

/-- **A course of action that is left alone** comes to its end as it does by itself. -/
theorem reaches_run {p : FileErrand α} {i : ι} (s : Scene ι α) (h : s.task i = .between p) :
    ∃ s', s.Reaches s' ∧ s'.files = (p.run FileTree.answer s.files).2 ∧
      s'.task i = .between (.done (p.run FileTree.answer s.files).1) ∧
      ∀ j ≠ i, ∀ rest, s.task j = .between rest → s'.task j = .between rest := by
  induction p generalizing s with
  | done a => exact ⟨s, .refl, rfl, h, fun _ _ _ hrest => hrest⟩
  | call c next ih =>
    have hstep : Step i s (s.turn i (FileTree.answer c s.files).2
        (.between (next (FileTree.answer c s.files).1)) (s.files.carried c)) :=
      ⟨_, _, _, h ▸ .answered c next, rfl⟩
    obtain ⟨s', hreaches, hfiles, htask, hothers⟩ := ih _ _ (turn_task_self s i _ _ _)
    refine ⟨s', .head ⟨i, hstep⟩ hreaches, hfiles, htask, fun j hj rest hrest => hothers j hj rest ?_⟩
    rw [turn_task_of_ne s hj, hrest]
    rfl

end Scene

end Conveyance
