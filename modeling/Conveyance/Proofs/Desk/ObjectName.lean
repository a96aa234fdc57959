import Conveyance.Desk.Office
import Conveyance.Proofs.FileName
import Conveyance.Proofs.Storage.Object
import Conveyance.Proofs.Text.Parts

/-!
# Proofs/Desk/ObjectName — the objects that documents are stored as

The name of an object is the desk's folder, slashes around it apart, and the file name of the
document.  A file name is one ordinary step, so **whether a store in a folder takes the object depends
on the desk's folder alone** (`ordinary_documentObject_iff`), and an object that is taken lies below the
root of the store.  Settings accept every folder, also one that no document can be stored in
(`Settings.path?_documentObject`).
-/

namespace Conveyance

/-! ## File names of documents -/

namespace FileName

variable (type : DocumentType) (name : Text) {stamp : Stamp}

theorem slash_notMem_documentName (h : stamp.IsDrawn) : '/' ∉ documentName type name stamp := by
  rw [documentName_eq, List.mem_append, not_or]
  exact ⟨fun hmem => absurd (isPlain_of_mem_stem type name h _ hmem) (by decide), by decide⟩

theorem length_documentName (stamp : Stamp) : 4 < (documentName type name stamp).length := by
  have hstem := List.length_pos_of_ne_nil (stem_ne_nil type name stamp)
  rw [documentName_eq, List.length_append]
  simp
  omega

/-- **The file name of a document is one**, whatever the document is called. -/
theorem isFileName_documentName (h : stamp.IsDrawn) :
    Path.IsFileName (documentName type name stamp) := by
  have hlength := length_documentName type name stamp
  have hne : ∀ t : Text, t.length ≤ 4 → documentName type name stamp ≠ t := by
    rintro t ht heq
    rw [heq] at hlength
    omega
  refine Path.isFileName_iff.2 ⟨slash_notMem_documentName type name h, ?_, hne _ (by decide)⟩
  simp [Path.isStep, hne [], hne ['.']]

end FileName

/-! ## Objects -/

namespace Desk

variable (desk : Desk) (type : DocumentType) (name : Text) {stamp : FileName.Stamp}

/-- The object that a document is stored as. -/
def documentObject (stamp : FileName.Stamp) : Text :=
  desk.objectName (FileName.documentName type name stamp)

/-- The desk's folder without the slashes around it. -/
def folderName : Text := Text.trimBy (· == '/') desk.folder

theorem documentObject_eq (stamp : FileName.Stamp) : desk.documentObject type name stamp =
    if desk.folderName = [] then FileName.documentName type name stamp
    else desk.folderName ++ '/' :: FileName.documentName type name stamp := by
  by_cases h : desk.folderName = []
  · rw [if_pos h]
    exact if_pos (List.isEmpty_iff.2 h)
  · rw [if_neg h]
    exact if_neg (mt List.isEmpty_iff.1 h)

theorem steps_documentObject (h : stamp.IsDrawn) :
    Path.steps (desk.documentObject type name stamp) =
      Path.steps desk.folderName ++ [FileName.documentName type name stamp] := by
  have hname := (FileName.isFileName_documentName type name h).steps
  rw [documentObject_eq]
  split_ifs with hfolder
  · rw [hfolder, hname, Path.steps_nil, List.nil_append]
  · rw [Path.steps_append_slash, hname]

theorem opening_documentObject (h : stamp.IsDrawn) :
    Path.opening (desk.documentObject type name stamp) = Path.opening desk.folderName := by
  rw [documentObject_eq]
  split_ifs with hfolder
  · rw [hfolder, (FileName.isFileName_documentName type name h).ordinary.opening]
    rfl
  · rw [Path.opening_append_slash hfolder]

/-- **An object is taken when the folder is made of ordinary names.** -/
theorem ordinary_documentObject_iff (h : stamp.IsDrawn) :
    Path.Ordinary (desk.documentObject type name stamp) ↔
      (Path.components desk.folderName).all FolderPlace.isOrdinary = true := by
  have hsteps := desk.steps_documentObject type name h
  have hup := (Path.isFileName_iff.1 (FileName.isFileName_documentName type name h)).2.2
  rw [Path.all_isOrdinary_iff, ← desk.opening_documentObject type name h]
  constructor
  · rintro ⟨hopening, -, hsafe⟩
    rw [hsteps, List.mem_append, not_or] at hsafe
    exact ⟨hopening, hsafe.1⟩
  · rintro ⟨hopening, hsafe⟩
    refine ⟨hopening, by simp [hsteps], ?_⟩
    rw [hsteps, List.mem_append, List.mem_singleton, not_or]
    exact ⟨hsafe, hup.symm⟩

end Desk

/-! ## Settings -/

namespace Path

/-- **A path that does not start at the root** is made of ordinary names when it neither starts with
a dot nor goes up. -/
theorem all_isOrdinary_iff_notMem {p : Text} (h : opening p ≠ [.root]) :
    (components p).all FolderPlace.isOrdinary = true ↔
      Component.here ∉ components p ∧ Component.up ∉ components p := by
  have hopening : Component.here ∉ opening p ↔ opening p = [] := by
    unfold opening at h ⊢
    split at h
    · exact absurd rfl h
    · split <;> simp
  have hhere : Component.here ∉ (steps p).map component := by
    rw [List.mem_map]
    rintro ⟨name, -, hname⟩
    exact component_ne_here name hname
  rw [all_isOrdinary_iff, up_mem_components_iff, components_eq, List.mem_append, not_or, hopening]
  simp only [hhere, not_false_eq_true, and_true]

end Path

namespace Settings

variable {env : Environment} {s : Settings}

theorem documentsFolder_of_read (h : read env = .ok s) :
    s.documentsFolder = Text.trimBy (· == '/') (env.getD .documentsFolder "documents") := by
  obtain ⟨_, -, h⟩ := exists_of_bind_ok h
  obtain ⟨_, -, h⟩ := exists_of_bind_ok h
  obtain ⟨_, -, h⟩ := exists_of_bind_ok h
  obtain ⟨_, -, h⟩ := exists_of_bind_ok h
  obtain ⟨_, -, h⟩ := exists_of_bind_ok h
  rw [← Except.ok.inj h]

/-- Trimming the folder twice is trimming it once. -/
theorem folderName_desk (h : read env = .ok s) : s.desk.folderName = s.documentsFolder := by
  change Text.trimBy (· == '/') s.documentsFolder = s.documentsFolder
  rw [documentsFolder_of_read h, Text.trimBy_trimBy]

/-- The folder of settings does not start at the root. -/
theorem opening_documentsFolder (h : read env = .ok s) :
    Path.opening s.documentsFolder ≠ [.root] := by
  intro hroot
  rw [← Path.isAbsolute_iff_opening] at hroot
  have htrim := documentsFolder_of_read h
  cases hfolder : s.documentsFolder with
  | nil =>
    rw [hfolder] at hroot
    cases hroot
  | cons c rest =>
    rw [hfolder] at hroot htrim
    have hc : c ≠ '/' := by simpa using Text.of_trimBy_eq_cons htrim.symm
    rw [Path.isAbsolute_cons_of_ne hc] at hroot
    cases hroot

/-- **Which settings can store documents in a folder.**  Settings that have been read are good for
every document when their folder neither starts with a dot nor goes up, and for none otherwise; what
is stored lies below the root of the store. -/
theorem path?_documentObject (h : read env = .ok s) (p : FolderPlace) (type : DocumentType)
    (name : Text) {stamp : FileName.Stamp} (hstamp : stamp.IsDrawn) :
    ((p.path? (s.desk.documentObject type name stamp)).isSome ↔
      Component.here ∉ Path.components s.documentsFolder ∧
        Component.up ∉ Path.components s.documentsFolder) ∧
      ∀ path, p.path? (s.desk.documentObject type name stamp) = some path →
        ∃ folders : List Text, Path.components path = Path.components p.directory ++
          (folders ++ [FileName.documentName type name stamp]).map .normal := by
  have hordinary := s.desk.ordinary_documentObject_iff type name hstamp
  rw [folderName_desk h, Path.all_isOrdinary_iff_notMem (opening_documentsFolder h)] at hordinary
  refine ⟨?_, fun path hpath => ?_⟩
  · rw [← hordinary, FolderPlace.isSome_path?_iff_ordinary]
  · obtain ⟨hobject, rfl⟩ := FolderPlace.path?_eq_some_iff.1 hpath
    refine ⟨Path.steps s.desk.folderName, ?_⟩
    rw [Path.components_joined hobject.opening, hobject.components_eq,
      Desk.steps_documentObject _ _ _ hstamp]

/-- Settings of nothing but the registry store documents in the folder of that name. -/
theorem path?_documentObject_documents :
    let env : Environment := fun v => if v = .databaseUrl then some "db".toList else none
    let p : FolderPlace :=
      { directory := "./generated".toList, publicUrl := "http://0.0.0.0:8080/files".toList }
    let s : Settings :=
      { databaseUrl := "db".toList, bindAddress := "0.0.0.0:8080".toList, storage := .folder p
        documentsFolder := "documents".toList, typstProgram := "typst".toList
        format := {}, layout := {} }
    let stamp : FileName.Stamp :=
      { moment := ⟨⟨2025, 3, 1, by decide, by decide⟩, 9, 30, 0, 0⟩, nonce := "1a2b3c4d".toList }
    (read env = .ok s ∧ s.storage = .folder p ∧ stamp.IsDrawn) ∧
      ∃ path, p.path? (s.desk.documentObject .agreement "Sale Deed".toList stamp) = some path ∧
        ∃ folders : List Text, Path.components path = Path.components p.directory ++ (folders ++
          [FileName.documentName .agreement "Sale Deed".toList stamp]).map .normal := by
  intro env p s stamp
  have hread : read env = .ok s := rfl
  have hdrawn : stamp.IsDrawn := by decide
  obtain ⟨htaken, hbelow⟩ :=
    path?_documentObject hread p .agreement "Sale Deed".toList hdrawn
  obtain ⟨path, hpath⟩ := Option.isSome_iff_exists.1 (htaken.2 (by decide +kernel))
  exact ⟨⟨hread, rfl, hdrawn⟩, path, hpath, hbelow path hpath⟩

/-- Settings may name a folder inside the store by a path that starts with a dot; every document is
refused then. -/
theorem path?_documentObject_dot :
    let env : Environment := fun v =>
      if v = .databaseUrl then some "db".toList
      else if v = .documentsFolder then some "./documents".toList else none
    let p : FolderPlace :=
      { directory := "./generated".toList, publicUrl := "http://0.0.0.0:8080/files".toList }
    let s : Settings :=
      { databaseUrl := "db".toList, bindAddress := "0.0.0.0:8080".toList, storage := .folder p
        documentsFolder := "./documents".toList, typstProgram := "typst".toList
        format := {}, layout := {} }
    let stamp : FileName.Stamp :=
      { moment := ⟨⟨2025, 3, 1, by decide, by decide⟩, 9, 30, 0, 0⟩, nonce := "1a2b3c4d".toList }
    read env = .ok s ∧ s.storage = .folder p ∧ stamp.IsDrawn ∧
      p.path? (s.desk.documentObject .agreement "Sale Deed".toList stamp) = none := by
  intro env p s stamp
  exact ⟨rfl, rfl, by decide, by decide +kernel⟩

end Settings

end Conveyance
