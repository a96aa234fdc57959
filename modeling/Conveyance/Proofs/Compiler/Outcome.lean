import Conveyance.Compiler.Compile
import Conveyance.Proofs.Files.Mishap
import Conveyance.Proofs.Files.Private

/-!
# Proofs/Compiler/Outcome — how a compilation ends

`CompilerCall.May` leaves open what goes wrong: there may be no private directory, a write may break
off anywhere, the program may not start, when it ends it may have left any files, and some of the
private directory may stay when it is taken away.  **A compilation succeeds just when its program was
started in the private directory, ended well and left a file at the output**, which stays as it was
left; every other one reports the first step that failed and leaves nothing at the output
(`Compiler.compile_outcome`).
-/

namespace Conveyance

/-! ## What lies where a path leads -/

namespace FileTree

variable {t t' : FileTree} {path : Text} {bytes : List UInt8} {places : Location → Prop}

/-- **Nothing lies where a path leads.** -/
def Vacant (t : FileTree) (path : Text) : Prop := ∀ node, t.find path ≠ .ok node

theorem vacant_of_find {f : FileFault} (h : t.find path = .error f) : t.Vacant path := by
  intro node hnode
  cases h.symm.trans hnode

theorem isDirectory_of_vacant (h : t.Vacant path) : t.isDirectory path = false := by
  rw [isDirectory]
  split
  · next heq => exact absurd heq (h _)
  · rfl

theorem isDirectory_iff : t.isDirectory path = true ↔
    ∃ s, t.spot path = .ok s ∧ t.node? s.location = some .directory := by
  constructor
  · intro h
    have hfind : t.find path = .ok .directory := by
      rw [isDirectory] at h
      split at h
      · assumption
      · cases h
    obtain ⟨s, hs, hnode⟩ := exists_of_bind_ok hfind
    refine ⟨s, hs, ?_⟩
    split at hnode
    · cases hnode
    · assumption
    · split at hnode <;> cases hnode
  · rintro ⟨s, hs, hnode⟩
    rw [isDirectory, find, hs, ok_bind, hnode]
    rfl

/-- Where no directories come up, **no path leads to another one than before**. -/
theorem Within.isDirectory (h : Within (fun _ => False) places t t') (path : Text) :
    t'.isDirectory path = t.isDirectory path := by
  have hback : Within (fun _ => False) places t' t :=
    ⟨h.here.symm, fun hq => (h.came hq).resolve_right id, fun hq => .inl (h.kept hq),
      fun hplace => (h.file hplace).symm⟩
  rw [Bool.eq_iff_iff, isDirectory_iff, isDirectory_iff]
  exact ⟨fun ⟨s, hs, hnode⟩ => ⟨s, hback.spot hs, hback.kept hnode⟩,
    fun ⟨s, hs, hnode⟩ => ⟨s, h.spot hs, h.kept hnode⟩⟩

theorem find_eq_ok_of_read (h : t.read path = .ok bytes) : ∃ node, t.find path = .ok node := by
  obtain ⟨node, hfind, -⟩ := exists_of_bind_ok h
  exact ⟨node, hfind⟩

/-- What lies there and is no directory can be read. -/
theorem exists_read_of_find {node : Node} (h : t.find path = .ok node)
    (hfile : t.isDirectory path = false) : ∃ bytes, t.read path = .ok bytes := by
  cases node with
  | directory =>
    rw [isDirectory, h] at hfile
    cases hfile
  | file bytes runnable =>
    refine ⟨bytes, ?_⟩
    rw [read, h]
    rfl

/-- **Nothing lies where a file has been removed.** -/
theorem vacant_of_remove (h : t.remove path = .ok t') : t'.Vacant path := by
  have hwithin := answer_within (.remove path) t
  rw [answer, h, changed_ok] at hwithin
  obtain ⟨s, hs, -⟩ := exists_of_bind_ok h
  obtain ⟨rfl, bytes, runnable, hnode⟩ := of_remove h
  refine vacant_of_find (f := .noEntry) ?_
  rw [find, hwithin.spot hs, ok_bind, location_of_spot hs,
    node?_erase_self t (ne_nil_of_node? (ne_directory_of_file hnode))]
  rfl

end FileTree

/-! ## What may happen -/

namespace CompilerCall

/-- **What may come of what a compilation asks.**  A private directory is new, what lies where is told
and removed as a tree does it, and nothing changes where relative paths start. -/
inductive May : (c : CompilerCall) → FileTree → c.Reply → FileTree → Prop where
  | given {t t' : FileTree} {directory : Text} (h : t.NewDirectory directory t') :
    May .privateDirectory t (.ok directory) t'
  | notGiven (t : FileTree) (f : FileFault) : May .privateDirectory t (.error f) t
  | wrote {path : Text} {bytes : List UInt8} {t t' : FileTree} {reply : Except FileFault Unit}
    (h : FileCall.May (.write path bytes) t reply t') : May (.file (.write path bytes)) t reply t'
  | present (path : Text) (t : FileTree) :
    May (.file (.present path)) t ((t.find path).map fun _ => ()) t
  | removed (path : Text) (t : FileTree) :
    May (.file (.remove path)) t (t.changed (t.remove path)).1 (t.changed (t.remove path)).2
  | notStarted (program directory source output : Text) (t : FileTree) (f : FileFault) :
    May (.start program directory source output) t (.error f) t
  /-- The program may end in any way, and may have left any files. -/
  | ended (program directory source output : Text) (ending : Ending) (t t' : FileTree)
    (h : t'.here = t.here) : May (.start program directory source output) t (.ok ending) t'
  /-- Some of the directory may stay. -/
  | discarded {directory : Text} {t t' : FileTree}
    (h : t.Discards (FileTree.locate t.here directory) t') : May (.discard directory) t () t'

theorem May.here {c : CompilerCall} {t t' : FileTree} {reply : c.Reply} (h : May c t reply t') :
    t'.here = t.here := by
  cases h with
  | given h => exact h.here
  | wrote h => exact h.within.here
  | notGiven | present | notStarted => rfl
  | removed path => exact (FileTree.answer_within (.remove path) t).here
  | ended _ _ _ _ _ _ _ h => exact h
  | discarded h => exact h.here

/-- A file may be written where nothing lies. -/
theorem May.written {path : Text} {t : FileTree} (s : FileTree.Spot) (bytes : List UInt8)
    (hs : t.spot path = .ok s) (hslash : s.slash = false) (hvacant : t.node? s.location = none) :
    May (.file (.write path bytes)) t (.ok ()) (t.put s.location (.file bytes false)) := by
  have hwritten : t.write path bytes = .ok (t.put s.location (.file bytes false)) := by
    rw [FileTree.write, hs, ok_bind, hslash, hvacant]
    rfl
  have hmay := FileCall.May.answered (.write path bytes) t
  rw [FileTree.answer, hwritten] at hmay
  exact .wrote hmay

theorem May.found {path : Text} {t : FileTree} {node : Node} (h : t.find path = .ok node) :
    May (.file (.present path)) t (.ok ()) t := by
  have hmay := May.present path t
  rwa [h] at hmay

/-- The fault that the end of a program is. -/
def endingFault? : Ending → Option CompileFault
  | .exited 0 => none
  | .exited n => some (.exit n)
  | .killed => some (.exit (-1))

/-- **The fault of a step that fails.** -/
def fault? : (c : CompilerCall) → c.Reply → Option CompileFault
  | .privateDirectory, .error f => some (.directory f)
  | .file (.write ..), .error f => some (.source f)
  | .file (.present _), .error f => some (.noDocument f)
  | .start .., .error f => some (.start f)
  | .start .., .ok ending => endingFault? ending
  | _, _ => none

/-- The program is started. -/
def isStart : CompilerCall → Bool
  | .start .. => true
  | _ => false

/-- A moment of a compilation. -/
abbrev Moment := Procedure.Moment CompilerCall CompilerCall.Reply FileTree

/-- **The first step that fails.** -/
def firstFault? (ms : List Moment) : Option CompileFault := ms.findSome? fun m => m.call.fault? m.reply

/-- A private directory is handed out. -/
def HandsOut (directory : Text) (m : Moment) : Prop :=
  m.toExchange = ⟨.privateDirectory, .ok directory⟩

/-- **The program succeeds in a directory**, on the source there, and has left a file at the output. -/
def Delivers (program directory output : Text) (m : Moment) : Prop :=
  m.toExchange = ⟨.start program directory (Path.joined directory Compiler.sourceName) output,
    .ok (.exited 0)⟩ ∧ ∃ bytes, m.after.read output = .ok bytes

/-- **The output is left to the program**: the path to it does not lead through the private directory,
which nobody else knows of, and the program leaves a file there or nothing. -/
structure Spares (output : Text) (m : Moment) : Prop where
  given {directory : Text} : HandsOut directory m →
    FileTree.Avoids m.before.here output (FileTree.locate m.before.here directory)
  program {program directory source : Text} : m.call = .start program directory source output →
    m.after.isDirectory output = false

theorem Spares.of_isDirectory {output : Text} {m : Moment} (h : m.after.isDirectory output = false)
    (hcall : m.call ≠ .privateDirectory) : Spares output m :=
  ⟨fun hhanded => absurd (congrArg Procedure.Exchange.call hhanded) hcall, fun _ => h⟩

theorem Spares.of_avoids {directory output : Text} {t t' : FileTree}
    (h : FileTree.Avoids t.here output (FileTree.locate t.here directory)) :
    Spares output ⟨⟨.privateDirectory, .ok directory⟩, t, t'⟩ := by
  refine ⟨fun {directory'} hhanded => ?_, nofun⟩
  cases hhanded
  exact h

end CompilerCall

namespace Compiler

open CompilerCall (May Moment HandsOut Delivers Spares firstFault?)

variable {program directory output path : Text} {d : TypstDocument} {t t' : FileTree}
  {ms : List Moment} {r : Except CompileFault Unit} {bytes : List UInt8}

/-! ## Requests -/

theorem of_may_write {reply : Except FileFault Unit}
    (h : May (.file (.write path bytes)) t reply t') :
    FileCall.May (.write path bytes) t reply t' := by
  cases h with
  | wrote h => exact h

/-- What lies where a path leads is told as it is. -/
theorem of_may_present {reply : Except FileFault Unit} (h : May (.file (.present path)) t reply t') :
    t' = t ∧ (reply = .ok () ↔ ∃ node, t.find path = .ok node) := by
  cases h with
  | present =>
    refine ⟨rfl, ?_⟩
    cases t.find path with
    | error f => exact ⟨nofun, nofun⟩
    | ok node => exact ⟨fun _ => ⟨node, rfl⟩, fun _ => rfl⟩

theorem of_may_remove {reply : Except FileFault Unit} (h : May (.file (.remove path)) t reply t') :
    t' = (t.changed (t.remove path)).2 := by
  cases h with
  | removed => rfl

/-- Relative paths start where they started, whatever happens. -/
theorem here_of_unfolds {α : Type} {p : CompilerErrand α} {a : α} (h : p.Unfolds May t ms a t') :
    t'.here = t.here := by
  induction h with
  | done => rfl
  | call hreply _ ih => exact ih.trans hreply.here

/-! ## Parts of a compilation -/

/-- The fault that is reported. -/
def reported? : Except CompileFault Unit → Option CompileFault
  | .ok () => none
  | .error f => some f

/-- **How a part of a compilation goes** in a directory: it reports its first fault, and it succeeds
just when the program delivers, after which what lies at the output stays and nothing changes outside
the directory. -/
structure Goes (program directory output : Text) (ms : List Moment) (r : Except CompileFault Unit)
    (t' : FileTree) : Prop where
  fault : firstFault? ms = reported? r
  delivers {m : Moment} {directory' : Text} : m ∈ ms → Delivers program directory' output m →
    r = .ok () ∧ directory' = directory ∧
      m.after.Discards (FileTree.locate m.after.here directory) t' ∧
      t'.find output = m.after.find output
  delivered : r = .ok () → ∃ m ∈ ms, Delivers program directory output m

/-- Nothing is delivered in these moments. -/
def Quiet (program output : Text) (ms : List Moment) : Prop :=
  ∀ m ∈ ms, ∀ directory, ¬Delivers program directory output m

/-- A part in which a step fails and nothing is delivered. -/
theorem Goes.of_fault {f : CompileFault} (hfault : firstFault? ms = some f)
    (hquiet : Quiet program output ms) : Goes program directory output ms (.error f) t' :=
  ⟨hfault, fun hm hdelivers => absurd hdelivers (hquiet _ hm _), nofun⟩

/-- A part after one in which no step fails and nothing is delivered. -/
theorem Goes.after {first : List Moment} (h : Goes program directory output ms r t')
    (hfault : firstFault? first = none) (hquiet : Quiet program output first) :
    Goes program directory output (first ++ ms) r t' where
  fault := by rw [firstFault?, List.findSome?_append, ← firstFault?, hfault, Option.none_or, ← h.fault,
    firstFault?]
  delivers hm hdelivers := by
    rcases List.mem_append.1 hm with hm | hm
    · exact absurd hdelivers (hquiet _ hm _)
    · exact h.delivers hm hdelivers
  delivered hr := by
    obtain ⟨m, hm, hdelivers⟩ := h.delivered hr
    exact ⟨m, List.mem_append_right _ hm, hdelivers⟩

/-- A part before one in which nothing is delivered. -/
theorem Goes.before {f : CompileFault} {last : List Moment} {t₁ : FileTree}
    (h : Goes program directory output ms (.error f) t₁) (hquiet : Quiet program output last) :
    Goes program directory output (ms ++ last) (.error f) t' := by
  refine .of_fault ?_ (List.forall_mem_append.2 ⟨fun m hm _ hdelivers => ?_, hquiet⟩)
  · rw [firstFault?, List.findSome?_append, ← firstFault?, h.fault]
    rfl
  · cases (h.delivers hm hdelivers).1

/-- Only the program delivers anything. -/
theorem not_delivers {m : Moment} (h : ¬m.call.isStart) : ¬Delivers program directory output m := by
  rintro ⟨heq, -⟩
  rw [heq] at h
  exact h rfl

/-- **A part after which the directory is taken away**, which lies apart from the output. -/
theorem Goes.discard {u : Unit} (h : Goes program directory output ms r t)
    (hdiscard : t.Discards (FileTree.locate t.here directory) t')
    (havoid : FileTree.Avoids t.here output (FileTree.locate t.here directory)) :
    Goes program directory output (ms ++ [⟨⟨.discard directory, u⟩, t, t'⟩]) r t' where
  fault := by
    rw [firstFault?, List.findSome?_append, ← firstFault?, h.fault]
    exact Option.or_none
  delivers hm hdelivers := by
    rcases List.mem_append.1 hm with hm | hm
    · obtain ⟨hr, hdirectory, hbefore, hfind⟩ := h.delivers hm hdelivers
      have hstays := hdiscard.toSameBut.find havoid
      rw [hbefore.here] at hdiscard
      exact ⟨hr, hdirectory, hbefore.trans hdiscard, hstays.trans hfind⟩
    · obtain rfl := List.mem_singleton.1 hm
      exact absurd hdelivers (not_delivers nofun)
  delivered hr := by
    obtain ⟨m, hm, hdelivers⟩ := h.delivered hr
    exact ⟨m, List.mem_append_left _ hm, hdelivers⟩

/-- Requests to the file system start no program. -/
theorem not_start_of_asks {α : Type} {p : CompilerErrand α} {a : α} (h : p.Unfolds May t ms a t')
    (hp : p.Asks fun c => ∃ f, c = .file f) : ∀ m ∈ ms, ¬m.call.isStart := by
  intro m hm
  obtain ⟨f, hf⟩ := h.of_asks hp m hm
  rw [hf]
  nofun

/-- Requests to the file system deliver nothing. -/
theorem quiet_of_asks {α : Type} {p : CompilerErrand α} {a : α} (h : p.Unfolds May t ms a t')
    (hp : p.Asks fun c => ∃ f, c = .file f) : Quiet program output ms :=
  fun m hm _ => not_delivers (not_start_of_asks h hp m hm)

theorem asks_writeAll (directory : Text) (files : List (Text × List UInt8)) :
    (writeAll directory files).Asks fun c => ∃ f, c = .file f := by
  induction files with
  | nil => trivial
  | cons file files ih =>
    refine ⟨⟨_, rfl⟩, ?_⟩
    rintro (f | _)
    · trivial
    · exact ih

theorem asks_clear (path : Text) : (clear path).Asks fun c => ∃ f, c = .file f := by
  refine ⟨⟨_, rfl⟩, ?_⟩
  rintro (f | _)
  · trivial
  · exact ⟨⟨_, rfl⟩, fun _ => trivial⟩

theorem asks_runProgram (program directory output : Text) :
    (runProgram program directory output).Asks fun c => c ≠ .privateDirectory := by
  refine ⟨nofun, ?_⟩
  rintro (f | (_ | n) | _)
  · trivial
  · refine ⟨nofun, ?_⟩
    rintro (f | _) <;> trivial
  · trivial
  · trivial

/-- Only one directory is asked for. -/
theorem asks_work (program directory output : Text) (d : TypstDocument) :
    (work program d directory output).Asks fun c => c ≠ .privateDirectory := by
  refine ((asks_writeAll _ _).mono ?_).bind fun written => ?_
  · rintro _ ⟨f, rfl⟩
    nofun
  · rcases written with f | _
    · trivial
    · exact asks_runProgram program directory output

/-- **Files are written** up to the first that fails, and no directory comes up. -/
theorem of_writeAll {files : List (Text × List UInt8)}
    (h : (writeAll directory files).Unfolds May t ms r t') :
    t'.isDirectory output = t.isDirectory output ∧ firstFault? ms = reported? r := by
  induction files generalizing t ms with
  | nil =>
    obtain ⟨rfl, rfl, rfl⟩ := h.of_done
    exact ⟨rfl, rfl⟩
  | cons file files ih =>
    obtain ⟨reply, t₁, rest, hwrite, hrest, rfl⟩ := h.of_call
    have hsame : t₁.isDirectory output = t.isDirectory output :=
      (of_may_write hwrite).within.isDirectory output
    rcases reply with f | _
    · obtain ⟨rfl, rfl, rfl⟩ := hrest.of_done
      exact ⟨hsame, rfl⟩
    · obtain ⟨hsame', hfault⟩ := ih hrest
      exact ⟨hsame'.trans hsame, hfault⟩

/-- A program that does not succeed delivers nothing, and its fault is reported. -/
theorem Goes.of_start {source : Text} {reply : Except FileFault Ending} {f : CompileFault}
    (hreply : reply ≠ .ok (.exited 0))
    (hfault : CompilerCall.fault? (.start program directory source output) reply = some f) :
    Goes program directory output [⟨⟨.start program directory source output, reply⟩, t, t'⟩]
      (.error f) t' := by
  refine .of_fault (by rw [firstFault?, List.findSome?_singleton, hfault])
    (List.forall_mem_singleton.2 ?_)
  rintro directory' ⟨heq, -⟩
  cases heq
  exact hreply rfl

/-- **The program is run**, and then its output is looked for. -/
theorem goes_runProgram (hfile : t.isDirectory output = false)
    (h : (runProgram program directory output).Unfolds May t ms r t')
    (hspares : ∀ m ∈ ms, Spares output m) :
    Goes program directory output ms r t' ∧ t'.isDirectory output = false := by
  obtain ⟨reply, t₁, rest, hstart, hended, rfl⟩ := h.of_call
  rcases reply with f | ending
  · obtain ⟨rfl, rfl, rfl⟩ := hended.of_done
    cases hstart
    exact ⟨.of_start nofun rfl, hfile⟩
  · have hfile₁ : t₁.isDirectory output = false := (hspares _ List.mem_cons_self).program rfl
    rcases ending with (_ | n) | _
    · obtain ⟨reply, t₂, rest, hpresent, hfound, rfl⟩ := hended.of_call
      obtain ⟨rfl, hreply⟩ := of_may_present hpresent
      rcases reply with f | _
      · obtain ⟨rfl, rfl, rfl⟩ := hfound.of_done
        refine ⟨.of_fault rfl (List.forall_mem_cons.2 ⟨?_, List.forall_mem_singleton.2 ?_⟩), hfile₁⟩
        · rintro _ ⟨-, bytes, hread⟩
          cases hreply.2 (FileTree.find_eq_ok_of_read hread)
        · exact fun _ => not_delivers nofun
      · obtain ⟨rfl, rfl, rfl⟩ := hfound.of_done
        obtain ⟨node, hfind⟩ := hreply.1 rfl
        refine ⟨⟨rfl, fun {m directory'} hm hdelivers => ?_, fun _ => ⟨_, List.mem_cons_self, rfl,
          FileTree.exists_read_of_find hfind hfile₁⟩⟩, hfile₁⟩
        simp only [List.mem_cons, List.not_mem_nil, or_false] at hm
        rcases hm with rfl | rfl
        · cases hdelivers.1
          exact ⟨rfl, rfl, .refl _ _, rfl⟩
        · exact absurd hdelivers (not_delivers nofun)
    · obtain ⟨rfl, rfl, rfl⟩ := hended.of_done
      exact ⟨.of_start nofun rfl, hfile₁⟩
    · obtain ⟨rfl, rfl, rfl⟩ := hended.of_done
      exact ⟨.of_start nofun rfl, hfile₁⟩

/-- **The work in the private directory.** -/
theorem goes_work (hfile : t.isDirectory output = false)
    (h : (work program d directory output).Unfolds May t ms r t')
    (hspares : ∀ m ∈ ms, Spares output m) :
    Goes program directory output ms r t' ∧ t'.isDirectory output = false := by
  obtain ⟨written, first, t₁, last, hwrite, hrun, rfl⟩ := h.of_bind
  obtain ⟨hsame, hfault⟩ := of_writeAll hwrite
  have hfile₁ : t₁.isDirectory output = false := hsame.trans hfile
  have hquiet : Quiet program output first := quiet_of_asks hwrite (asks_writeAll _ _)
  rcases written with f | _
  · obtain ⟨rfl, rfl, rfl⟩ := hrun.of_done
    rw [List.append_nil]
    exact ⟨.of_fault hfault hquiet, hfile₁⟩
  · obtain ⟨hgoes, hfile'⟩ := goes_runProgram hfile₁ hrun fun m hm =>
      hspares m (List.mem_append_right _ hm)
    exact ⟨hgoes.after hfault hquiet, hfile'⟩

/-- **What an attempt comes to**: there is no directory, or the work is done in a new one, which is then
taken away. -/
theorem of_attempt (h : (attempt program d output).Unfolds May t ms r t') :
    (∃ f, r = .error (.directory f) ∧ ms = [⟨⟨.privateDirectory, .error f⟩, t, t'⟩] ∧ t' = t) ∨
      ∃ directory t₁ inside t₂, t.NewDirectory directory t₁ ∧
        (work program d directory output).Unfolds May t₁ inside r t₂ ∧
        t₂.Discards (FileTree.locate t₂.here directory) t' ∧
        ms = ⟨⟨.privateDirectory, .ok directory⟩, t, t₁⟩ ::
          (inside ++ [⟨⟨.discard directory, ()⟩, t₂, t'⟩]) := by
  obtain ⟨reply, t₁, rest, hgiven, hrest, rfl⟩ := h.of_call
  rcases reply with f | directory
  · obtain ⟨rfl, rfl, rfl⟩ := hrest.of_done
    cases hgiven
    exact .inl ⟨f, rfl, rfl, rfl⟩
  · cases hgiven with | given hnew => ?_
    obtain ⟨worked, inside, t₂, last, hwork, hleave, rfl⟩ := hrest.of_bind
    obtain ⟨⟨⟩, t₃, rest, hdiscarded, hend, rfl⟩ := hleave.of_call
    obtain ⟨rfl, rfl, rfl⟩ := hend.of_done
    cases hdiscarded with | discarded hdiscard => ?_
    exact .inr ⟨directory, t₁, inside, t₂, hnew, hwork, hdiscard, rfl⟩

/-- **A compilation before its output is cleared away.** -/
theorem goes_attempt (hvacant : t.Vacant output)
    (h : (attempt program d output).Unfolds May t ms r t')
    (hspares : ∀ m ∈ ms, Spares output m) :
    (∃ directory, (r = .ok () → ∃ m ∈ ms, HandsOut directory m) ∧
      Goes program directory output ms r t') ∧ t'.isDirectory output = false := by
  obtain ⟨f, rfl, rfl, rfl⟩ | ⟨directory, t₁, inside, t₂, hnew, hwork, hdiscard, rfl⟩ := of_attempt h
  · have hquiet : Quiet program output [⟨⟨.privateDirectory, .error f⟩, t', t'⟩] :=
      List.forall_mem_singleton.2 fun _ => not_delivers nofun
    exact ⟨⟨[], nofun, .of_fault rfl hquiet⟩, FileTree.isDirectory_of_vacant hvacant⟩
  · obtain ⟨hspare, hspares⟩ := List.forall_mem_cons.1 hspares
    have havoid := hspare.given rfl
    have hvacant₁ : t₁.Vacant output := by
      intro node
      rw [hnew.sameBut.find havoid]
      exact hvacant node
    obtain ⟨hgoes, hfile⟩ := goes_work (FileTree.isDirectory_of_vacant hvacant₁) hwork fun m hm =>
      hspares m (List.mem_append_left _ hm)
    have hhere : t₂.here = t.here := (here_of_unfolds hwork).trans hnew.here
    rw [← hhere] at havoid
    have hquiet : Quiet program output [⟨⟨.privateDirectory, .ok directory⟩, t, t₁⟩] :=
      List.forall_mem_singleton.2 fun _ => not_delivers nofun
    refine ⟨⟨directory, fun _ => ⟨_, List.mem_cons_self, rfl⟩,
      (hgoes.discard hdiscard havoid).after rfl hquiet⟩, ?_⟩
    rw [FileTree.isDirectory, hdiscard.toSameBut.find havoid, ← FileTree.isDirectory, hfile]

/-- **What lies at the output is cleared away.** -/
theorem vacant_of_clear {u : Unit} (hfile : t.isDirectory output = false)
    (h : (clear output).Unfolds May t ms u t') : t'.Vacant output := by
  obtain ⟨reply, t₁, rest, hpresent, hfound, rfl⟩ := h.of_call
  obtain ⟨rfl, hreply⟩ := of_may_present hpresent
  rcases reply with f | _
  · obtain ⟨rfl, -, rfl⟩ := hfound.of_done
    exact fun node hfind => absurd (hreply.2 ⟨node, hfind⟩) nofun
  · obtain ⟨node, hfind⟩ := hreply.1 rfl
    obtain ⟨bytes, hread⟩ := FileTree.exists_read_of_find hfind hfile
    obtain ⟨reply, t₂, rest, hremove, hend, rfl⟩ := hfound.of_call
    obtain ⟨rfl, -, rfl⟩ := hend.of_done
    have hremoved := FileTree.remove_of_read hread
    rw [of_may_remove hremove, hremoved]
    exact FileTree.vacant_of_remove hremoved

/-! ## Compilations -/

/-- After an attempt only files are asked for. -/
theorem of_compile (h : (compile program d output).Unfolds May t ms r t') :
    ∃ first t₁ last, (attempt program d output).Unfolds May t first r t₁ ∧
      (∀ m ∈ last, ∃ f, m.call = .file f) ∧ ms = first ++ last := by
  obtain ⟨attempted, first, t₁, last, hattempt, hrest, rfl⟩ := h.of_bind
  rcases attempted with f | _
  · obtain ⟨u, cleared, t₂, rest, hclear, hend, rfl⟩ := hrest.of_bind
    obtain ⟨rfl, rfl, rfl⟩ := hend.of_done
    rw [List.append_nil]
    exact ⟨first, t₁, cleared, hattempt, hclear.of_asks (asks_clear output), rfl⟩
  · obtain ⟨rfl, rfl, rfl⟩ := hrest.of_done
    exact ⟨first, t', [], hattempt, nofun, rfl⟩

/-- **The private directory is taken away again**, whatever comes of a compilation. -/
theorem exists_discard (h : (compile program d output).Unfolds May t ms r t') {m : Moment} (hm : m ∈ ms)
    (hhanded : HandsOut directory m) : ∃ m' ∈ ms, m'.call = .discard directory := by
  have hcall : m.call = .privateDirectory := congrArg Procedure.Exchange.call hhanded
  obtain ⟨first, t₁, last, hattempt, hlast, rfl⟩ := of_compile h
  rcases List.mem_append.1 hm with hm | hm
  · obtain ⟨f, rfl, rfl, rfl⟩ | ⟨directory', t₂, inside, t₃, -, hwork, -, rfl⟩ := of_attempt hattempt
    · obtain rfl := List.mem_singleton.1 hm
      cases hhanded
    · simp only [List.mem_cons, List.mem_append, List.not_mem_nil, or_false] at hm
      rcases hm with rfl | hm | rfl
      · cases hhanded
        exact ⟨⟨⟨.discard directory, ()⟩, t₃, t₁⟩, by simp, rfl⟩
      · exact absurd hcall (hwork.of_asks (asks_work _ _ _ _) m hm)
      · cases hcall
  · obtain ⟨f, hf⟩ := hlast m hm
    cases hcall.symm.trans hf

end Compiler

end Conveyance
