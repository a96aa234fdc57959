import Conveyance.Proofs.Files.Steps

/-!
# Proofs/Files/Extension — the file name of a path, and its extension

`LeadsTo` says where the name of a file stands in the text of a path, and `HasExtension` what stands
behind its last dot; neither takes the path apart.  **The name and the extension that are read from a
path are those** (`fileName?_eq_some_iff`, `extension?_eq_some_iff`), so a path has one of each at most.
A name has an extension exactly when it has a dot behind its first character (`LeadsTo.hasExtension_iff`).
-/

namespace Conveyance.Path

variable {p name name' e e' : Text}

/-! ## File names -/

/-- **The path leads to a file of this name**: the name stands at its start or behind a slash, and
nothing follows but slashes, with single dots between them. -/
def LeadsTo (p name : Text) : Prop :=
  ∃ dir rest, p = dir ++ name ++ rest ∧ (dir = [] ∨ dir.getLast? = some '/') ∧ IsFileName name ∧
    (rest = [] ∨ rest.head? = some '/') ∧ steps rest = []

theorem IsFileName.leadsTo (h : IsFileName name) : LeadsTo name name :=
  ⟨[], [], (List.append_nil _).symm, .inl rfl, h, .inl rfl, rfl⟩

theorem LeadsTo.isFileName (h : LeadsTo p name) : IsFileName name := by
  obtain ⟨_, _, -, -, hname, -⟩ := h
  exact hname

/-- The name is the last step of the path. -/
theorem LeadsTo.steps_eq (h : LeadsTo p name) : ∃ dir, steps p = steps dir ++ [name] := by
  obtain ⟨dir, rest, rfl, hdir, hname, hrest, hidle⟩ := h
  refine ⟨dir, ?_⟩
  rw [steps_append (.inr (.inr hrest.symm)), steps_append (hdir.imp_right .inl), hname.steps, hidle,
    List.append_nil]

/-- **The file name of a path is the one that it leads to.** -/
theorem fileName?_eq_some_iff : fileName? p = some name ↔ LeadsTo p name := by
  constructor
  · intro h
    obtain ⟨-, hlast, -⟩ := of_fileName? h
    obtain ⟨rest, hp, hidle, hapart⟩ := exists_trimmed_append p
    obtain ⟨htrimmed, habove⟩ := trimmed_eq p
    have hname := isFileName_of_fileName? h
    obtain ⟨hslash, hstep, -⟩ := isFileName_iff.1 hname
    rw [htrimmed, hlast] at hp hapart
    exact ⟨above p, rest, hp, habove, hname, hapart.of_name hslash hstep, hidle⟩
  · intro h
    obtain ⟨dir, hsteps⟩ := h.steps_eq
    have hup := (isFileName_iff.1 h.isFileName).2.2
    rw [fileName?, components_eq, hsteps, List.map_append, List.map_singleton, ← List.append_assoc,
      List.getLast?_concat, component, if_neg hup]

theorem LeadsTo.unique (h : LeadsTo p name) (h' : LeadsTo p name') : name = name' :=
  Option.some.inj ((fileName?_eq_some_iff.2 h).symm.trans (fileName?_eq_some_iff.2 h'))

/-! ## Extensions -/

/-- **The path has this extension**: it leads to a name in which the extension stands behind the last
dot, and something stands before that dot. -/
def HasExtension (p e : Text) : Prop :=
  ∃ stem, stem ≠ [] ∧ '.' ∉ e ∧ LeadsTo p (stem ++ '.' :: e)

/-- **A name without a dot behind its first character is not divided.** -/
theorem splitName_of_notMem (h : '.' ∉ name.tail) : splitName name = (name, none) := by
  rcases name with _ | ⟨c, t⟩
  · rfl
  · rw [List.tail_cons] at h
    unfold splitName
    dsimp only
    refine if_neg ?_
    rw [Bool.and_eq_true, List.contains_iff_mem, List.mem_cons, or_iff_left h]
    rintro ⟨rfl, hbefore⟩
    -- the only dot is the first character, and nothing stands before it
    have hafter : ('.' :: t).reverse.takeWhile (· != '.') = t.reverse := takeWhile_reverse_dotted h []
    rw [hafter] at hbefore
    simp at hbefore

/-- A dot behind the first character divides a name at the last of its dots. -/
theorem exists_of_dot_mem (h : '.' ∈ name.tail) :
    ∃ stem e, stem ≠ [] ∧ '.' ∉ e ∧ name = stem ++ '.' :: e := by
  rcases name with _ | ⟨c, t⟩
  · cases h
  · obtain ⟨after, before, ht, hafter⟩ := List.eq_append_cons_of_mem (List.mem_reverse.2 h)
    have hsplit : t = before.reverse ++ '.' :: after.reverse := by simpa using ht
    rw [hsplit]
    exact ⟨c :: before.reverse, after.reverse, List.cons_ne_nil _ _, mt List.mem_reverse.1 hafter,
      rfl⟩

theorem dot_mem_tail {stem : Text} (h : stem ≠ []) (e : Text) : '.' ∈ (stem ++ '.' :: e).tail := by
  obtain ⟨c, stem, rfl⟩ := List.exists_cons_of_ne_nil h
  simp

/-- **A name is divided at its last dot**, if something stands before it. -/
theorem splitName_snd_eq_some_iff :
    (splitName name).2 = some e ↔ ∃ stem, stem ≠ [] ∧ '.' ∉ e ∧ name = stem ++ '.' :: e := by
  constructor
  · intro h
    by_cases hdot : '.' ∈ name.tail
    · obtain ⟨stem, e', hstem, he', rfl⟩ := exists_of_dot_mem hdot
      rw [splitName_append hstem he'] at h
      obtain rfl := Option.some.inj h
      exact ⟨stem, hstem, he', rfl⟩
    · rw [splitName_of_notMem hdot] at h
      cases h
  · rintro ⟨stem, hstem, he, rfl⟩
    rw [splitName_append hstem he]

/-- **The extension of a path is the one that it has.** -/
theorem extension?_eq_some_iff : extension? p = some e ↔ HasExtension p e := by
  simp only [extension?, Option.bind_eq_some_iff, fileName?_eq_some_iff, splitName_snd_eq_some_iff]
  constructor
  · rintro ⟨name, hname, stem, hstem, he, rfl⟩
    exact ⟨stem, hstem, he, hname⟩
  · rintro ⟨stem, hstem, he, hname⟩
    exact ⟨_, hname, stem, hstem, he, rfl⟩

theorem HasExtension.unique (h : HasExtension p e) (h' : HasExtension p e') : e = e' :=
  Option.some.inj ((extension?_eq_some_iff.2 h).symm.trans (extension?_eq_some_iff.2 h'))

/-- **A path has an extension when its name has a dot behind the first character.** -/
theorem LeadsTo.hasExtension_iff (h : LeadsTo p name) :
    (∃ e, HasExtension p e) ↔ '.' ∈ name.tail := by
  constructor
  · rintro ⟨e, stem, hstem, -, hname⟩
    rw [h.unique hname]
    exact dot_mem_tail hstem e
  · intro hdot
    obtain ⟨stem, e, hstem, he, rfl⟩ := exists_of_dot_mem hdot
    exact ⟨e, stem, hstem, he, h⟩

end Conveyance.Path
