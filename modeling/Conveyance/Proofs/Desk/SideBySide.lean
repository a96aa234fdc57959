import Conveyance.Proofs.Desk.ObjectName
import Conveyance.Proofs.Storage.Sharing

/-!
# Proofs/Desk/SideBySide — documents stored side by side

Documents of different file names have different stems, so **their unfinished files have different
names as well, and none has the name of a document** (`Job.separate`).  Their uploads therefore do
not meet, in whatever order they take their steps: at every moment a document is whole or not there,
and one whose upload has ended well is there (`documents_sideBySide`).  `Desk.share` in an office
with a folder is `FolderPlace.share` (`run_share`).
-/

namespace Conveyance

/-! ## Sharing in an office -/

theorem Office.answer_upload {o : Office} {p : FolderPlace} (h : o.place = .folder p) (object : Text)
    (bytes : List UInt8) (b : Bench) : o.answer (.upload object bytes) b =
      (((p.upload object bytes).run FileTree.answer b.machine.files).1.mapError (·.message),
        { b with machine.files := ((p.upload object bytes).run FileTree.answer b.machine.files).2 }) := by
  rw [Office.answer, h]
  rfl

theorem Office.answer_delete {o : Office} {p : FolderPlace} (h : o.place = .folder p) (object : Text)
    (b : Bench) : o.answer (.delete object) b =
      (((p.delete object).run FileTree.answer b.machine.files).1.mapError (·.message),
        { b with machine.files := ((p.delete object).run FileTree.answer b.machine.files).2 }) := by
  rw [Office.answer, h]
  rfl

/-- **The desk's way to share a document** is the folder's, when documents are kept in a folder. -/
theorem Desk.run_share {o : Office} {p : FolderPlace} (h : o.place = .folder p) (object : Text)
    (bytes : List UInt8) (b : Bench) :
    (Desk.share object bytes).run.run o.answer b =
      (((p.share object bytes).run FileTree.answer b.machine.files).1.mapError (.store ·.message),
        { b with machine.files :=
            ((p.share object bytes).run FileTree.answer b.machine.files).2 }) := by
  rw [FolderPlace.share, Procedure.run_bind]
  change Procedure.run o.answer (.call (.upload object bytes) _) b = _
  rw [Procedure.run, Office.answer_upload h]
  generalize (p.upload object bytes).run FileTree.answer b.machine.files = uploaded
  obtain ⟨_ | _, files⟩ := uploaded
  · change Procedure.run o.answer (.call (.delete object) _) _ = _
    rw [Procedure.run, Office.answer_delete h, Procedure.run_bind]
    rfl
  · rfl

/-! ## Documents -/

/-- A document on its way into the store. -/
structure Job where
  type : DocumentType
  /-- The name of the template. -/
  name : Text
  stamp : FileName.Stamp
  drawn : stamp.IsDrawn
  /-- The document, compiled. -/
  bytes : List UInt8

namespace Job

/-- The file name of the document. -/
def fileName (job : Job) : Text := FileName.documentName job.type job.name job.stamp

/-- The object that the document is stored as. -/
def object (job : Job) (desk : Desk) : Text := desk.documentObject job.type job.name job.stamp

/-- The name of the file that the document is written to first. -/
def partName (job : Job) : Text := FileName.stem job.type job.name job.stamp ++ '.' :: "part".toList

variable {desk : Desk} {p : FolderPlace} {here : Location} {job other : Job}

theorem partName_ne_fileName (job other : Job) : job.partName ≠ other.fileName := by
  intro h
  have hlast := congrArg List.getLast? h
  rw [partName, fileName, FileName.documentName_eq,
    List.getLast?_append_of_ne_nil _ (List.cons_ne_nil _ _),
    List.getLast?_append_of_ne_nil _ (List.cons_ne_nil _ _)] at hlast
  exact absurd hlast (by decide)

/-- **Documents of different names are written to files of different names.** -/
theorem fileName_eq_of_partName (h : job.partName = other.partName) :
    job.fileName = other.fileName := by
  rw [fileName, fileName, FileName.documentName_eq, FileName.documentName_eq,
    List.append_cancel_right h]

theorem place_object (p : FolderPlace) (here : Location) (desk : Desk) (job : Job) :
    p.place here (job.object desk) =
      FileTree.locate here p.directory ++ Path.steps desk.folderName ++ [job.fileName] := by
  rw [FolderPlace.place, object, Desk.steps_documentObject _ _ _ job.drawn, List.append_assoc]
  rfl

variable (hfolder : (Path.components desk.folderName).all FolderPlace.isOrdinary = true)

include hfolder

theorem ordinary_object (job : Job) : Path.Ordinary (job.object desk) :=
  (desk.ordinary_documentObject_iff job.type job.name job.drawn).2 hfolder

theorem path?_object (p : FolderPlace) (job : Job) :
    p.path? (job.object desk) = some (Path.joined p.directory (job.object desk)) :=
  FolderPlace.path?_eq_some_iff.2 ⟨job.ordinary_object hfolder, rfl⟩

theorem place_partialPath (p : FolderPlace) (here : Location) (job : Job) :
    p.place here (FolderPlace.partialPath (job.object desk)) =
      FileTree.locate here p.directory ++ Path.steps desk.folderName ++ [job.partName] := by
  have hsteps := desk.steps_documentObject job.type job.name job.drawn
  obtain ⟨name, hname, hlast, -⟩ := (job.ordinary_object hfolder).exists_fileName
  rw [object, hsteps, List.dropLast_concat] at hlast
  obtain rfl : FileName.documentName job.type job.name job.stamp = name := by simpa using hlast
  rw [FolderPlace.place, FolderPlace.partialPath, Path.steps_withExtension hname
    FolderPlace.part_ne_nil.2 FolderPlace.part_ne_nil.1, object, hsteps, List.dropLast_concat,
    FileName.documentName_eq,
    Path.splitName_append (FileName.stem_ne_nil _ _ _) (by decide), List.append_assoc]
  rfl

/-- Where an upload of a document writes. -/
theorem spots_iff (p : FolderPlace) (here : Location) (job : Job) (q : Location) :
    Upload.Spots here (Path.joined p.directory (job.object desk)) q ↔
      ∃ name, (name = job.partName ∨ name = job.fileName) ∧
        q = FileTree.locate here p.directory ++ Path.steps desk.folderName ++ [name] := by
  have hpath := job.path?_object hfolder p
  rw [Upload.Spots, FolderPlace.locate_partialPath hpath, FolderPlace.locate_of_path? hpath,
    place_object, job.place_partialPath hfolder]
  simp only [or_and_right, exists_or, exists_eq_left]

/-- **Documents of different names have no file in common.** -/
theorem separate {ι : Type} {job : ι → Job} (hnames : Function.Injective fun i => (job i).fileName)
    (p : FolderPlace) (here : Location) :
    Upload.Separate here fun i => Path.joined p.directory ((job i).object desk) := by
  refine ⟨fun i => ?_, fun {i j} hij q hi hj => ?_⟩
  · have hpath := (job i).path?_object hfolder p
    rw [FolderPlace.locate_partialPath hpath, FolderPlace.locate_of_path? hpath, place_object,
      (job i).place_partialPath hfolder, Ne, List.append_cancel_left_eq, List.singleton_inj]
    exact ((job i).partName_ne_fileName (job i)).symm
  · rw [spots_iff hfolder] at hi hj
    obtain ⟨name, hname, rfl⟩ := hi
    obtain ⟨name', hname', heq⟩ := hj
    rw [List.append_cancel_left_eq, List.singleton_inj] at heq
    subst heq
    refine hij (hnames ?_)
    rcases hname with rfl | rfl <;> rcases hname' with hname' | hname'
    · exact fileName_eq_of_partName hname'
    · exact absurd hname' (partName_ne_fileName _ _)
    · exact absurd hname'.symm (partName_ne_fileName _ _)
    · exact hname'

/-- The way to a document leads no further than its folder. -/
theorem of_way {l : Location}
    (h : Upload.Way here (Path.joined p.directory (job.object desk)) l) :
    ∃ names, names <+: Path.steps p.directory ++ Path.steps desk.folderName ∧
      l = names.foldl FileTree.turn (FileTree.start here p.directory) := by
  obtain ⟨above, habove, q, hq, hne, rfl⟩ := h
  have hordinary := job.ordinary_object hfolder
  have hsteps : Path.steps (Path.joined p.directory (job.object desk)) =
      Path.steps p.directory ++ Path.steps desk.folderName ++ [job.fileName] := by
    rw [Path.steps_joined hordinary.opening, object, Desk.steps_documentObject _ _ _ job.drawn,
      List.append_assoc]
    rfl
  obtain ⟨htext, -, hlast⟩ := Path.of_parent? habove
  obtain ⟨htext', hbegin⟩ := hq.isPrefix
  rw [hlast (by simp [hsteps]), hsteps, List.dropLast_concat] at hbegin
  refine ⟨Path.steps q, hbegin, ?_⟩
  obtain ⟨rest, hrest⟩ := htext'.trans htext
  rw [FileTree.locate, FileTree.start, FileTree.start, ← Path.isAbsolute_append hne rest, hrest,
    Path.isAbsolute_congr (Path.opening_joined hordinary.opening p.directory)]

/-- **Directories are not made where documents lie**, unless the path to the folder goes up and names
the document's own file. -/
theorem detour_of_way
    (h : Upload.Way here (Path.joined p.directory (other.object desk))
      (p.place here (job.object desk))) :
    Component.up ∈ Path.components p.directory ∧
      job.fileName ∈ here ++ Path.steps p.directory ++ Path.steps desk.folderName := by
  obtain ⟨names, hnames, hplace⟩ := of_way hfolder h
  rw [place_object, FileTree.locate] at hplace
  refine ⟨?_, ?_⟩
  · by_contra hroot
    rw [Path.up_mem_components_iff] at hroot
    have hup : ['.', '.'] ∉ Path.steps p.directory ++ Path.steps desk.folderName := by
      rw [List.mem_append, not_or]
      exact ⟨hroot, ((Path.all_isOrdinary_iff _).1 hfolder).2⟩
    rw [FileTree.foldl_turn hroot, FileTree.foldl_turn fun hmem => hup (hnames.subset hmem),
      List.append_assoc, List.append_assoc, List.append_cancel_left_eq] at hplace
    -- a document takes a step more than what is passed on the way
    have hle := hnames.length_le
    rw [← hplace] at hle
    simp only [List.length_append, List.length_singleton] at hle
    omega
  · have hmem : job.fileName ∈ names.foldl FileTree.turn (FileTree.start here p.directory) := by
      rw [← hplace]
      simp
    rw [List.append_assoc, List.mem_append]
    rcases FileTree.mem_of_mem_foldl_turn hmem with hmem | hmem
    · exact .inl (FileTree.start_subset here p.directory hmem)
    · exact .inr (hnames.subset hmem)

end Job

namespace FolderPlace

variable {ι : Type} [DecidableEq ι] {desk : Desk} {p : FolderPlace} {job : ι → Job}
  {s s' : Scene ι (Except StoreFault Unit)}

/-- **Documents of different names are stored side by side**, in whatever order their uploads take
their steps.  At every moment there is no document at a place, or the whole of the one that belongs
there (or a directory, where the path to the folder goes up and names that very document on its way);
one whose upload has ended well is stored; and a step of one upload changes no file of another. -/
theorem documents_sideBySide
    (hfolder : (Path.components desk.folderName).all isOrdinary = true)
    (hnames : Function.Injective fun i => (job i).fileName)
    (hstart : ∀ i, s.task i = .between (p.share ((job i).object desk) (job i).bytes))
    (hvacant : ∀ i, s.files.node? (p.place s.files.here ((job i).object desk)) = none)
    (hreaches : s.Reaches s') :
    (∀ i, let found := s'.files.node? (p.place s'.files.here ((job i).object desk))
      found = none ∨ (∃ runnable, found = some (.file (job i).bytes runnable)) ∨
        (found = some .directory ∧ Component.up ∈ Path.components p.directory ∧ (job i).fileName ∈
          s.files.here ++ Path.steps p.directory ++ Path.steps desk.folderName)) ∧
    (∀ i, s'.task i = .between (.done (.ok ())) →
      p.held s'.files ((job i).object desk) = some (job i).bytes) ∧
    ∀ i s'', Scene.Step i s' s'' → ∀ j ≠ i, ∀ q,
      q = p.place s'.files.here ((job j).object desk) ∨
        q = p.place s'.files.here (partialPath ((job j).object desk)) →
      ∀ bytes runnable, s''.files.node? q = some (.file bytes runnable) ↔
        s'.files.node? q = some (.file bytes runnable) := by
  have hpath := fun i => (job i).path?_object hfolder p
  have hseparate := fun here => Job.separate hfolder hnames p here
  have hstages : ∀ i, Upload.Stage (Path.joined p.directory ((job i).object desk)) (job i).bytes
      s.files (s.task i) := by
    intro i
    rw [hstart i]
    refine .starting (Upload.starts_share _ (hpath i)) fun bytes runnable hfile => ?_
    rw [locate_of_path? (hpath i), hvacant i] at hfile
    cases hfile
  obtain ⟨hstages', hwithin⟩ := Upload.stage_of_reaches (hseparate _) hstages hreaches
  refine ⟨fun i => ?_, fun i hdone => ?_, fun i s'' hstep j hj q hq bytes runnable => ?_⟩
  · intro found
    cases hfound : found with
    | none => exact .inl rfl
    | some node =>
      cases node with
      | file bytes runnable =>
        rw [← (hstages' i).eq_of_file (by rw [locate_of_path? (hpath i)]; exact hfound)]
        exact .inr (.inl ⟨runnable, rfl⟩)
      | directory =>
        have hcame : s'.files.node? (p.place s.files.here ((job i).object desk)) =
            some .directory := hwithin.here ▸ hfound
        rcases hwithin.came hcame with hbefore | ⟨j, hway⟩
        · rw [hvacant i] at hbefore
          cases hbefore
        · exact .inr (.inr ⟨rfl, Job.detour_of_way hfolder hway⟩)
  · have hread := (hdone ▸ hstages' i).read_of_done
    exact held_eq_some_iff.2 ⟨_, hpath i, hread⟩
  · obtain ⟨-, hstep'⟩ := Upload.stage_of_step (hseparate _) hstages' hstep
    refine hstep'.file ((hseparate _).others hj ?_)
    rw [Upload.Spots, locate_partialPath (hpath j), locate_of_path? (hpath j)]
    exact hq.symm

/-- **A root that goes up from a document's own name** gets a directory made where the document belongs,
so that there is neither nothing nor the document, and the upload fails. -/
theorem documents_sideBySide_detour :
    let desk : Desk := { address := id }
    let moment : Instant := ⟨⟨2025, 3, 1, by decide, by decide⟩, 9, 30, 0, 0⟩
    let job : Unit → Job := fun _ =>
      { type := .agreement, name := "Sale Deed".toList, stamp := ⟨moment, "1a2b3c4d".toList⟩
        drawn := by decide
        bytes := [1, 2] }
    let p : FolderPlace :=
      { directory := "/srv/documents/".toList ++ (job ()).fileName ++ "/../..".toList, publicUrl := [] }
    let s : Scene Unit (Except StoreFault Unit) :=
      { files := { entries := [(["srv".toList], .directory)] }
        task := fun i => .between (p.share ((job i).object desk) (job i).bytes) }
    ((Path.components desk.folderName).all isOrdinary = true ∧
        (Function.Injective fun i => (job i).fileName) ∧
        ∀ i, s.files.node? (p.place s.files.here ((job i).object desk)) = none) ∧
      ∃ s', s.Reaches s' ∧
        let found := s'.files.node? (p.place s'.files.here ((job ()).object desk))
        found = some .directory ∧
          ¬(found = none ∨ ∃ runnable, found = some (.file (job ()).bytes runnable)) ∧
          s'.task () = .between (.done (.error
            (.store (Path.joined p.directory ((job ()).object desk)) .isDirectory))) := by
  intro desk moment job p s
  obtain ⟨s', hreaches, hfiles, htask, -⟩ := Scene.reaches_run (i := ()) s rfl
  have hfound : s'.files.node? (p.place s'.files.here ((job ()).object desk)) = some .directory := by
    rw [hfiles]
    decide +kernel
  have hfailed : ((p.share ((job ()).object desk) (job ()).bytes).run FileTree.answer s.files).1 =
      .error (.store (Path.joined p.directory ((job ()).object desk)) .isDirectory) := by
    decide +kernel
  refine ⟨⟨by decide, fun _ _ _ => rfl, fun _ => by decide +kernel⟩, s', hreaches, hfound, ?_, ?_⟩
  · rw [hfound]
    simp
  · rw [htask, hfailed]

/-- Two documents of one template, made in the same second, are both stored. -/
theorem documents_sideBySide_pair :
    let desk : Desk := { address := id }
    let p : FolderPlace := { directory := "/srv".toList, publicUrl := [] }
    let moment : Instant := ⟨⟨2025, 3, 1, by decide, by decide⟩, 9, 30, 0, 0⟩
    let job : Bool → Job := fun i =>
      { type := .agreement, name := "Sale Deed".toList
        stamp := ⟨moment, if i then "1a2b3c4d".toList else "5e6f7a8b".toList⟩
        drawn := by cases i <;> decide
        bytes := if i then [1, 2] else [3] }
    let s : Scene Bool (Except StoreFault Unit) :=
      { files := { entries := [(["srv".toList], .directory)] }
        task := fun i => .between (p.share ((job i).object desk) (job i).bytes) }
    ∃ s', s.Reaches s' ∧ (∀ i, s'.task i = .between (.done (.ok ()))) ∧
      ∀ i, p.held s'.files ((job i).object desk) = some (job i).bytes := by
  intro desk p moment job s
  obtain ⟨s₁, hreaches₁, hfiles₁, htask₁, hothers⟩ := Scene.reaches_run (i := true) s rfl
  obtain ⟨s₂, hreaches₂, -, htask₂, hdone⟩ :=
    Scene.reaches_run (i := false) s₁ (hothers false nofun _ rfl)
  have hfirst : ((p.share ((job true).object desk) (job true).bytes).run FileTree.answer
      s.files).1 = .ok () := by decide +kernel
  have hsecond : ((p.share ((job false).object desk) (job false).bytes).run FileTree.answer
      ((p.share ((job true).object desk) (job true).bytes).run FileTree.answer s.files).2).1 =
        .ok () := by decide +kernel
  have hends : ∀ i, s₂.task i = .between (.done (.ok ())) := by
    rintro (_ | _)
    · rw [htask₂, hfiles₁, hsecond]
    · rw [hdone true nofun _ htask₁, hfirst]
  have hnames : Function.Injective fun i => (job i).fileName := by
    rintro (_ | _) (_ | _) h
    · rfl
    · exact absurd h (by decide +kernel)
    · exact absurd h (by decide +kernel)
    · rfl
  have hvacant : ∀ i, s.files.node? (p.place s.files.here ((job i).object desk)) = none := by
    rintro (_ | _) <;> decide +kernel
  exact ⟨s₂, hreaches₁.trans hreaches₂, hends, fun i =>
    (documents_sideBySide (by decide) hnames (fun _ => rfl) hvacant
      (hreaches₁.trans hreaches₂)).2.1 i (hends i)⟩

end FolderPlace

end Conveyance
