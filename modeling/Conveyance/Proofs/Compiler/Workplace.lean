import Conveyance.Proofs.Compiler.Outcome

/-!
# Proofs/Compiler/Workplace — what a program finds when it is started

The names that a document gives to its files are file names (`isFileName_of_mem_files`), so each is
written inside the private directory.  **Where no two are the same, the program is started in it with
exactly the files of the document there**, unless one of these could not be written (`finds_files`).
-/

namespace Conveyance.Compiler

open CompilerCall (May Moment HandsOut)

variable {program directory output : Text} {d : TypstDocument} {t t' : FileTree}
  {ms : List Moment} {r : Except CompileFault Unit}

/-! ## The names of files -/

theorem isFileName_sourceName : Path.IsFileName sourceName := Path.isFileName_iff.2 (by decide)

/-- **An attachment stays in the directory**, whatever it is called. -/
theorem isFileName_attachmentName (a : Attachment) : Path.IsFileName (attachmentName a) := by
  rw [attachmentName]
  cases hname : Path.fileName? a.name with
  | none => exact Path.isFileName_iff.2 (by decide)
  | some name => exact Path.isFileName_of_fileName? hname

theorem isFileName_of_mem_files {file : Text × List UInt8} (h : file ∈ files d) :
    Path.IsFileName file.1 := by
  rcases List.mem_cons.1 h with rfl | h
  · exact isFileName_sourceName
  · obtain ⟨a, -, rfl⟩ := List.mem_map.1 h
    exact isFileName_attachmentName a

/-- An attachment that is called by a file name keeps it. -/
theorem attachmentName_eq {a : Attachment} (h : Path.IsFileName a.name) :
    attachmentName a = a.name := by
  rw [attachmentName, h.fileName?]
  rfl

/-! ## What is written -/

/-- **Files that are all written** are what the directory holds in addition. -/
theorem holding_of_writeAll {done files : List (Text × List UInt8)}
    (hfiles : ∀ file ∈ files, Path.IsFileName file.1)
    (hnodup : ((done ++ files).map Prod.fst).Nodup)
    (hdone : FileTree.Holding (FileTree.locate t.here directory) done t)
    (h : (writeAll directory files).Unfolds May t ms (.ok ()) t') :
    FileTree.Holding (FileTree.locate t'.here directory) (done ++ files) t' := by
  induction files generalizing t ms done with
  | nil =>
    obtain ⟨-, -, rfl⟩ := h.of_done
    rwa [List.append_nil]
  | cons file files ih =>
    obtain ⟨reply, t₁, rest, hwrite, hrest, -⟩ := h.of_call
    rcases reply with f | _
    · cases hrest.of_done.2.1
    · have hwritten := (of_may_write hwrite).of_write_ok
      have hnew : file.1 ∉ done.map Prod.fst := by
        rw [List.map_append, List.nodup_append] at hnodup
        exact fun hmem => hnodup.2.2 _ hmem _ (List.mem_map_of_mem List.mem_cons_self) rfl
      have hmore := hdone.write (hfiles file List.mem_cons_self) hnew hwritten
      rw [← (of_may_write hwrite).within.here] at hmore
      rw [List.append_cons] at hnodup ⊢
      exact ih (fun file hfile => hfiles file (List.mem_cons_of_mem _ hfile)) hnodup hmore hrest

/-- Only a file that cannot be written ends the writing. -/
theorem source_of_writeAll {files : List (Text × List UInt8)} {f : CompileFault}
    (h : (writeAll directory files).Unfolds May t ms (.error f) t') :
    ∃ m ∈ ms, ∃ g, m.call.fault? m.reply = some (.source g) := by
  induction files generalizing t ms with
  | nil => cases h.of_done.2.1
  | cons file files ih =>
    obtain ⟨reply, t₁, rest, -, hrest, rfl⟩ := h.of_call
    rcases reply with g | _
    · exact ⟨_, List.mem_cons_self, g, rfl⟩
    · obtain ⟨m, hm, hfault⟩ := ih hrest
      exact ⟨m, List.mem_cons_of_mem _ hm, hfault⟩

/-! ## The start of the program -/

/-- **The program is started in a directory**, on the source there, when it holds exactly the given
files. -/
def StartsIn (program directory output : Text) (files : List (Text × List UInt8)) (m : Moment) : Prop :=
  m.call = .start program directory (Path.joined directory sourceName) output ∧
    FileTree.Holding (FileTree.locate m.before.here directory) files m.before

/-- **What the program finds** for a document, whatever else happens in a compilation: whenever it is
started, that is in the private directory that was handed out and with exactly the given files there,
and it is started unless no such directory was to be had or a file could not be written. -/
def Finds (d : TypstDocument) (files : List (Text × List UInt8)) : Prop :=
  ∀ (program output : Text) (t t' : FileTree) (ms : List Moment) (r : Except CompileFault Unit),
    (compile program d output).Unfolds May t ms r t' →
      (∀ m ∈ ms, m.call.isStart → ∃ directory, (∃ m' ∈ ms, HandsOut directory m') ∧
        StartsIn program directory output files m) ∧
      ((∃ m ∈ ms, m.call.isStart) ∨ ∃ m ∈ ms, ∃ f,
        m.call.fault? m.reply = some (.directory f) ∨ m.call.fault? m.reply = some (.source f))

/-- The program is started once, and first of all. -/
theorem start_of_runProgram (h : (runProgram program directory output).Unfolds May t ms r t') :
    ∃ m later, ms = m :: later ∧ m.before = t ∧
      m.call = .start program directory (Path.joined directory sourceName) output ∧
      ∀ m ∈ later, ¬m.call.isStart := by
  obtain ⟨reply, t₁, later, -, hrest, rfl⟩ := h.of_call
  refine ⟨_, later, rfl, rfl, rfl, not_start_of_asks hrest ?_⟩
  rcases reply with f | (_ | n) | _
  · trivial
  · refine ⟨⟨_, rfl⟩, ?_⟩
    rintro (f | _) <;> trivial
  · trivial
  · trivial

/-- **In an empty directory the program finds the files of the document**, when their names differ. -/
theorem starts_of_work (hnames : ((files d).map Prod.fst).Nodup)
    (hempty : FileTree.Holding (FileTree.locate t.here directory) [] t)
    (h : (work program d directory output).Unfolds May t ms r t') :
    (∀ m ∈ ms, m.call.isStart → StartsIn program directory output (files d) m) ∧
      ((∃ m ∈ ms, m.call.isStart) ∨
        ∃ m ∈ ms, ∃ f, m.call.fault? m.reply = some (.source f)) := by
  obtain ⟨written, wrote, t₁, ran, hwrite, hrun, rfl⟩ := h.of_bind
  have hwrote := not_start_of_asks hwrite (asks_writeAll _ _)
  rcases written with f | _
  · obtain ⟨rfl, -, -⟩ := hrun.of_done
    rw [List.append_nil]
    exact ⟨fun m hm hstart => absurd hstart (hwrote m hm), .inr (source_of_writeAll hwrite)⟩
  · obtain ⟨m, later, rfl, hbefore, hcall, hlater⟩ := start_of_runProgram hrun
    have hstart : m.call.isStart := by
      rw [hcall]
      rfl
    refine ⟨fun m' hm' hstart' => ?_,
      .inl ⟨m, List.mem_append_right _ List.mem_cons_self, hstart⟩⟩
    rcases List.mem_append.1 hm' with hm' | hm'
    · exact absurd hstart' (hwrote m' hm')
    · rcases List.mem_cons.1 hm' with rfl | hm'
      · refine ⟨hcall, ?_⟩
        rw [hbefore]
        exact holding_of_writeAll (fun _ => isFileName_of_mem_files) hnames hempty hwrite
      · exact absurd hstart' (hlater m' hm')

/-- A compilation before its output is cleared away. -/
theorem starts_of_attempt (hnames : ((files d).map Prod.fst).Nodup)
    (h : (attempt program d output).Unfolds May t ms r t') :
    (∀ m ∈ ms, m.call.isStart → ∃ directory, (∃ m' ∈ ms, HandsOut directory m') ∧
        StartsIn program directory output (files d) m) ∧
      ((∃ m ∈ ms, m.call.isStart) ∨ ∃ m ∈ ms, ∃ f,
        m.call.fault? m.reply = some (.directory f) ∨ m.call.fault? m.reply = some (.source f)) := by
  obtain ⟨f, rfl, rfl, rfl⟩ | ⟨directory, t₁, inside, t₂, hnew, hwork, -, rfl⟩ := of_attempt h
  · exact ⟨List.forall_mem_singleton.2 nofun, .inr ⟨_, List.mem_cons_self, f, .inl rfl⟩⟩
  · have hempty : FileTree.Holding (FileTree.locate t₁.here directory) [] t₁ :=
      hnew.here ▸ hnew.holding
    obtain ⟨hfinds, hstarts⟩ := starts_of_work hnames hempty hwork
    refine ⟨fun m hm hstart => ⟨directory, ⟨_, List.mem_cons_self, rfl⟩, ?_⟩, ?_⟩
    · rcases List.mem_cons.1 hm with rfl | hm
      · cases hstart
      · rcases List.mem_append.1 hm with hm | hm
        · exact hfinds m hm hstart
        · obtain rfl := List.mem_singleton.1 hm
          cases hstart
    · rcases hstarts with ⟨m, hm, hstart⟩ | ⟨m, hm, f, hfault⟩
      · exact .inl ⟨m, List.mem_cons_of_mem _ (List.mem_append_left _ hm), hstart⟩
      · exact .inr ⟨m, List.mem_cons_of_mem _ (List.mem_append_left _ hm), f, .inr hfault⟩

/-- **A program finds the files of the document**, when their names differ. -/
theorem finds_files (hnames : ((files d).map Prod.fst).Nodup) : Finds d (files d) := by
  intro program output t t' ms r h
  obtain ⟨tried, t₁, cleared, hattempt, hcleared, rfl⟩ := of_compile h
  obtain ⟨hfinds, hstarts⟩ := starts_of_attempt hnames hattempt
  refine ⟨fun m hm hstart => ?_, ?_⟩
  · rcases List.mem_append.1 hm with hm | hm
    · obtain ⟨directory, ⟨m', hm', hhanded⟩, hin⟩ := hfinds m hm hstart
      exact ⟨directory, ⟨m', List.mem_append_left _ hm', hhanded⟩, hin⟩
    · obtain ⟨f, hf⟩ := hcleared m hm
      rw [hf] at hstart
      cases hstart
  · exact hstarts.imp (fun ⟨m, hm, hstart⟩ => ⟨m, List.mem_append_left _ hm, hstart⟩)
      fun ⟨m, hm, hfault⟩ => ⟨m, List.mem_append_left _ hm, hfault⟩

end Conveyance.Compiler
