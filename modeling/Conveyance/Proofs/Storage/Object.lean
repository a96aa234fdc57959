import Conveyance.Proofs.Files.Effect

/-!
# Proofs/Storage/Object — where objects and their unfinished files lie

**An object whose name is ordinary lies at its steps below the folder** (`locate_of_path?`), and the
file that it is written to first lies at the steps of its name with another extension, beside it
(`locate_partialPath`).  So whether two of these places are one is a matter of the names alone, and
not of the folder.
-/

namespace Conveyance

/-! ## Names with another extension -/

namespace Path

theorem Ordinary.exists_fileName {p : Text} (h : Ordinary p) :
    ∃ name, Path.fileName? p = some name ∧ steps p = (steps p).dropLast ++ [name] ∧
      '/' ∉ name ∧ name ≠ [] := by
  have hmem := of_mem_steps (List.getLast_mem h.steps_ne_nil)
  refine ⟨_, h.fileName?, (List.dropLast_concat_getLast h.steps_ne_nil).symm, hmem.1, fun hnil => ?_⟩
  rw [hnil] at hmem
  cases hmem.2

/-- **A name with another extension is ordinary again.** -/
theorem Ordinary.withExtension {p e : Text} (h : Ordinary p) (he : '/' ∉ e) (hne : e ≠ []) :
    Ordinary (withExtension p e) := by
  obtain ⟨name, hname, -, hslash, hnonempty⟩ := h.exists_fileName
  have hsteps := steps_withExtension hname he hne
  refine ⟨?_, ?_, ?_⟩
  · rw [opening_withExtension hname he hne, h.opening]
  · rw [hsteps]
    simp
  · rw [hsteps, List.mem_append, List.mem_singleton, not_or]
    refine ⟨fun hmem => h.up_notMem (List.dropLast_subset _ hmem), fun hdots => ?_⟩
    -- a letter before the dot and one behind it are one too many
    have hlength := congrArg List.length hdots
    have hstem := List.length_pos_of_ne_nil ((splitName_fst name).2 hnonempty)
    have hext := List.length_pos_of_ne_nil hne
    simp only [List.length_append, List.length_cons, List.length_nil] at hlength
    omega

theorem Ordinary.fileName?_withExtension {p name e : Text} (h : Ordinary p)
    (hname : Path.fileName? p = some name) (he : '/' ∉ e) (hne : e ≠ []) :
    Path.fileName? (Path.withExtension p e) = some ((splitName name).1 ++ '.' :: e) := by
  rw [(h.withExtension he hne).fileName?, Option.some_inj, List.getLast_eq_iff_getLast?_eq_some,
    steps_withExtension hname he hne, List.getLast?_concat]

end Path

/-! ## Places -/

namespace FolderPlace

variable {p : FolderPlace} {here : Location} {object other path : Text}

theorem path?_eq_some_iff :
    p.path? object = some path ↔ Path.Ordinary object ∧ path = Path.joined p.directory object := by
  rw [path?, Path.ordinary_iff]
  split_ifs with h
  · have hsafe : object ≠ [] ∧ (Path.components object).all isOrdinary = true := by simpa using h
    simp only [Option.some.injEq, hsafe, ne_eq, not_false_eq_true, true_and]
    exact eq_comm
  · refine iff_of_false nofun fun hsafe => h ?_
    simpa using hsafe.1

theorem isSome_path?_iff_ordinary : (p.path? object).isSome ↔ Path.Ordinary object := by
  rw [Option.isSome_iff_exists]
  simp only [path?_eq_some_iff, exists_and_left, exists_eq, and_true]

/-- **The place of an object** whose name is ordinary. -/
def place (p : FolderPlace) (here : Location) (object : Text) : Location :=
  FileTree.locate here p.directory ++ Path.steps object

theorem locate_of_path? (h : p.path? object = some path) :
    FileTree.locate here path = p.place here object := by
  obtain ⟨hordinary, rfl⟩ := path?_eq_some_iff.1 h
  exact FileTree.locate_joined hordinary here p.directory

theorem part_ne_nil : "part".toList ≠ [] ∧ '/' ∉ "part".toList := by decide

theorem ordinary_partialPath (h : Path.Ordinary object) : Path.Ordinary (partialPath object) :=
  h.withExtension part_ne_nil.2 part_ne_nil.1

/-- The file that an object is written to first lies beside the object. -/
theorem steps_partialPath (h : Path.Ordinary object) (dir : Text) :
    Path.steps (partialPath (Path.joined dir object)) =
      Path.steps dir ++ Path.steps (partialPath object) := by
  obtain ⟨name, hname, -⟩ := h.exists_fileName
  have hjoined : Path.fileName? (Path.joined dir object) = some name := by
    rw [h.fileName?_joined, hname]
  rw [partialPath, partialPath, Path.steps_withExtension hjoined part_ne_nil.2 part_ne_nil.1,
    Path.steps_withExtension hname part_ne_nil.2 part_ne_nil.1, Path.steps_joined h.opening,
    List.dropLast_append_of_ne_nil h.steps_ne_nil, List.append_assoc]

/-- The file that an object is written to first starts where the folder starts. -/
theorem isAbsolute_partialPath (h : Path.Ordinary object) (dir : Text) :
    Path.isAbsolute (partialPath (Path.joined dir object)) = Path.isAbsolute dir := by
  obtain ⟨name, hname, -⟩ := h.exists_fileName
  refine Path.isAbsolute_congr ?_
  rw [partialPath, Path.opening_withExtension (by rw [h.fileName?_joined, hname])
    part_ne_nil.2 part_ne_nil.1, Path.opening_joined h.opening]

theorem locate_partialPath (h : p.path? object = some path) :
    FileTree.locate here (partialPath path) = p.place here (partialPath object) := by
  obtain ⟨hordinary, rfl⟩ := path?_eq_some_iff.1 h
  rw [FileTree.locate, steps_partialPath hordinary, List.foldl_append, FileTree.start,
    isAbsolute_partialPath hordinary,
    FileTree.foldl_turn (ordinary_partialPath hordinary).up_notMem]
  rfl

/-- **Objects lie at one place when their names have the same components.** -/
theorem place_eq_iff (hobject : Path.Ordinary object) (hother : Path.Ordinary other) :
    p.place here object = p.place here other ↔
      Path.components object = Path.components other := by
  have hinjective : Function.Injective (List.map Component.normal) :=
    List.map_injective_iff.2 fun _ _ => Component.normal.inj
  rw [place, place, List.append_cancel_left_eq, hobject.components_eq, hother.components_eq,
    hinjective.eq_iff]

theorem parent?_of_path? (h : p.path? object = some path) : (Path.parent? path).isSome := by
  obtain ⟨hordinary, rfl⟩ := path?_eq_some_iff.1 h
  obtain ⟨name, hname, -⟩ := hordinary.exists_fileName
  rw [← hordinary.fileName?_joined p.directory] at hname
  unfold Path.fileName? at hname
  unfold Path.parent?
  split at hname
  · next hlast =>
    rw [hlast]
    rfl
  · cases hname

end FolderPlace

end Conveyance
