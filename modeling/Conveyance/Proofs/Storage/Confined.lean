import Conveyance.Proofs.Storage.Shelf

/-!
# Proofs/Storage/Confined — objects stay below the folder

The normal form of a path is found without looking at any file: dots are dropped, and a step up takes
back the name before it.  It is settled by the start of the path and its steps, so **a path that
starts with the folder and takes more steps, none of them up, has the normal form of the folder and
those names behind it** (`normalForm_append`).  The objects of ordinary names lie there, the files
that they are written to first as well, and nothing else is written, moved or removed
(`path?_confined`).
-/

namespace Conveyance

namespace Path

/-! ## Normal forms -/

/-- One component more: a step up takes back the name before it, if there is one, and at the root it
leads nowhere. -/
def resolve (way : List Component) : Component → List Component
  | .root => [.root]
  | .here => way
  | .up => match way.getLast? with
    | some (.normal _) => way.dropLast
    | some .root => way
    | _ => way ++ [.up]
  | .normal name => way ++ [.normal name]

/-- **The normal form of a path**: its components, without dots and without names that are left
again. -/
def normalForm (p : Text) : List Component := (components p).foldl resolve []

/-- A normal form is that of the steps, from the root or from nowhere. -/
theorem normalForm_eq (p : Text) : normalForm p =
    ((steps p).map component).foldl resolve (if isAbsolute p then [.root] else []) := by
  rw [normalForm, components_eq, List.foldl_append]
  congr 1
  by_cases h : opening p = [.root]
  · rw [if_pos ((isAbsolute_iff_opening p).2 h), h]
    rfl
  · rw [if_neg (mt (isAbsolute_iff_opening p).1 h)]
    unfold opening at h ⊢
    split at h
    · exact absurd rfl h
    · split <;> rfl

/-- Names are not taken back while no step up follows. -/
theorem foldl_resolve_normal (names : List Text) (way : List Component) :
    (names.map .normal).foldl resolve way = way ++ names.map .normal := by
  induction names generalizing way with
  | nil => rw [List.map_nil, List.foldl_nil, List.append_nil]
  | cons name names ih =>
    rw [List.map_cons, List.foldl_cons, ih, resolve, List.append_assoc, List.singleton_append]

/-- **Steps behind those of a directory stand behind its normal form**, when none of them leads up. -/
theorem normalForm_append {dir p : Text} {names : List Text}
    (hstart : isAbsolute p = isAbsolute dir) (hsteps : steps p = steps dir ++ names)
    (hup : ['.', '.'] ∉ names) : normalForm p = normalForm dir ++ names.map .normal := by
  rw [normalForm_eq, normalForm_eq, hstart, hsteps, List.map_append, List.foldl_append,
    map_component_of_notMem hup, foldl_resolve_normal]

/-- A step up takes back the name before it, and counts where there is none. -/
example : normalForm "../a/./b/..//c".toList = [.up, .normal ['a'], .normal ['c']] := by decide

/-- The path leads down from the directory by the given names. -/
structure LeadsDown (dir p : Text) (names : List Text) : Prop where
  normalForm_eq : normalForm p = normalForm dir ++ names.map .normal
  isFileName : ∀ name ∈ names, IsFileName name

/-- **The path lies below the directory**, by one name at least. -/
def IsBelow (dir p : Text) : Prop := ∃ names, names ≠ [] ∧ LeadsDown dir p names

/-- Steps of a path lead down when none of them leads up. -/
theorem LeadsDown.of_steps {dir p object : Text} {names : List Text}
    (hstart : isAbsolute p = isAbsolute dir) (hsteps : steps p = steps dir ++ names)
    (hnames : names ⊆ steps object) (hup : ['.', '.'] ∉ names) : LeadsDown dir p names where
  normalForm_eq := normalForm_append hstart hsteps hup
  isFileName name hname := by
    obtain ⟨hslash, hstep⟩ := of_mem_steps (hnames hname)
    exact isFileName_iff.2 ⟨hslash, hstep, fun hdots => hup (hdots ▸ hname)⟩

variable {object : Text}

theorem Ordinary.leadsDown (h : Ordinary object) (dir : Text) :
    LeadsDown dir (joined dir object) (steps object) :=
  .of_steps (isAbsolute_congr (opening_joined h.opening dir)) (steps_joined h.opening dir)
    (List.Subset.refl _) h.up_notMem

/-- **The directory above an ordinary name** is the directory, or below it. -/
theorem Ordinary.leadsDown_parent {above : Text} (h : Ordinary object) (dir : Text)
    (habove : parent? (joined dir object) = some above) :
    LeadsDown dir above (steps object).dropLast := by
  have hsteps := steps_joined h.opening dir
  have hne : steps (joined dir object) ≠ [] := by
    rw [hsteps]
    exact List.append_ne_nil_of_right_ne_nil _ h.steps_ne_nil
  refine .of_steps ?_ ?_ (List.dropLast_subset _) fun hup => ?_
  · rw [isAbsolute_of_parent? habove, isAbsolute_congr (opening_joined h.opening dir)]
  · rw [(of_parent? habove).2.2 hne, hsteps, List.dropLast_append_of_ne_nil h.steps_ne_nil]
  · exact h.up_notMem (List.dropLast_subset _ hup)

end Path

/-! ## Confinement -/

namespace FolderPlace

variable {p : FolderPlace} {object path : Text}

/-- **The request stays below the folder**, where directories may be made down from the folder
itself. -/
def confines (p : FolderPlace) : FileCall → Prop
  | .makeDirectories path => ∃ names, Path.LeadsDown p.directory path names
  | .write path _ | .remove path | .present path => Path.IsBelow p.directory path
  | .rename source target => Path.IsBelow p.directory source ∧ Path.IsBelow p.directory target

theorem isBelow_of_path? (h : p.path? object = some path) : Path.IsBelow p.directory path := by
  obtain ⟨hordinary, rfl⟩ := path?_eq_some_iff.1 h
  exact ⟨Path.steps object, hordinary.steps_ne_nil, hordinary.leadsDown p.directory⟩

/-- **The file that an object is written to first lies below the folder** as well. -/
theorem isBelow_partialPath (h : p.path? object = some path) :
    Path.IsBelow p.directory (partialPath path) := by
  obtain ⟨hordinary, rfl⟩ := path?_eq_some_iff.1 h
  have hpart := ordinary_partialPath hordinary
  exact ⟨_, hpart.steps_ne_nil, .of_steps (isAbsolute_partialPath hordinary p.directory)
    (steps_partialPath hordinary p.directory) (List.Subset.refl _) hpart.up_notMem⟩

/-- **Which objects have a path.** -/
theorem isSome_path?_iff : (p.path? object).isSome ↔ object ≠ [] ∧ Path.isAbsolute object = false ∧
    Component.up ∉ Path.components object ∧
    (Path.components object).head? ≠ some .here ∧ Path.components object ≠ [] := by
  rw [isSome_path?_iff_ordinary, Path.ordinary_iff, Path.all_isOrdinary_iff, Path.opening_eq_nil_iff,
    ← Path.up_mem_components_iff]
  constructor
  · rintro ⟨hne, ⟨habsolute, hhere⟩, hup⟩
    refine ⟨hne, habsolute, hup, hhere, ?_⟩
    have hsteps := Path.steps_ne_nil_of_opening hne
      ((Path.opening_eq_nil_iff object).2 ⟨habsolute, hhere⟩)
    rw [Path.components_eq]
    exact List.append_ne_nil_of_right_ne_nil _ (mt List.map_eq_nil_iff.1 hsteps)
  · rintro ⟨hne, habsolute, hup, hhere, -⟩
    exact ⟨hne, ⟨habsolute, hhere⟩, hup⟩

/-- **Objects stay below the folder.**  A name has a path exactly when it is a text that neither starts
at the root or with a dot nor goes up, and leads somewhere; its path then lies below the folder, by one
name at least.  A name without a path is refused at once.  Otherwise whatever is written, moved or
removed on an upload or a removal lies below the folder too, and directories are made there or down to
the folder itself. -/
theorem path?_confined (p : FolderPlace) (object : Text) (bytes : List UInt8) :
    ((p.path? object).isSome ↔ object ≠ [] ∧ Path.isAbsolute object = false ∧
      Component.up ∉ Path.components object ∧
      (Path.components object).head? ≠ some .here ∧ Path.components object ≠ []) ∧
    (∀ path, p.path? object = some path → Path.IsBelow p.directory path) ∧
    (p.path? object = none → p.upload object bytes = .done (.error (.name object)) ∧
      p.delete object = .done (.error (.name object))) ∧
    (p.upload object bytes).Asks p.confines ∧ (p.delete object).Asks p.confines := by
  refine ⟨isSome_path?_iff, fun path hpath => isBelow_of_path? hpath, fun hnone => ?_, ?_, ?_⟩
  · rw [upload, delete, hnone]
    exact ⟨rfl, rfl⟩
  · refine asks_upload fun path hpath => ?_
    have hown := isBelow_of_path? hpath
    have hbeside := isBelow_partialPath hpath
    refine ⟨fun above habove => ?_, hbeside, ⟨hbeside, hown⟩, hbeside⟩
    obtain ⟨hordinary, rfl⟩ := path?_eq_some_iff.1 hpath
    exact ⟨_, hordinary.leadsDown_parent p.directory habove⟩
  · exact asks_delete fun path hpath => isBelow_of_path? hpath

/-- Slashes and dots inside a name, and names that start with dots, are no way out of the folder; a step
up inside a name is refused, wherever it would lead. -/
theorem path?_confined_dots :
    let p : FolderPlace := { directory := "../store/.".toList, publicUrl := "u".toList }
    p.path? "..a//./.../b/".toList = some "../store/./..a//./.../b/".toList ∧
      Path.IsBelow p.directory "../store/./..a//./.../b/".toList ∧
      p.path? "a/../b".toList = none ∧
      p.delete "a/../b".toList = .done (.error (.name "a/../b".toList)) := by
  intro p
  have hpath : p.path? "..a//./.../b/".toList = some "../store/./..a//./.../b/".toList := by
    decide +kernel
  have hnone : p.path? "a/../b".toList = none := by decide +kernel
  exact ⟨hpath, (path?_confined p _ []).2.1 _ hpath, hnone, ((path?_confined p _ []).2.2.1 hnone).2⟩

end FolderPlace

end Conveyance
