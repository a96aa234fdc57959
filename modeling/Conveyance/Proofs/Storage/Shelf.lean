import Conveyance.Proofs.Storage.Object

/-!
# Proofs/Storage/Shelf — a folder as a map from objects to bytes

`FolderPlace.held` is what reading the file of an object gives, and `FolderPlace.serve` carries out one
call after another.  **A call that succeeds does to its own object what it says**, and leaves every
other stored object as it is, with one exception (`held_serve_concat`): an upload is written to a
file beside its object first, and where that file is another object, the other object is lost.
-/

namespace Conveyance

/-- A call to a store. -/
inductive StoreCall where
  | upload (object : Text) (bytes : List UInt8)
  | delete (object : Text)
  deriving DecidableEq

namespace StoreCall

/-- The object that the call is about. -/
def object : StoreCall → Text
  | upload object _ | delete object => object

/-- What the call leaves of its object. -/
def contents : StoreCall → Option (List UInt8)
  | upload _ bytes => some bytes
  | delete _ => none

/-- The other object is the file that an upload is written to first. -/
def passesThrough (c : StoreCall) (other : Text) : Bool :=
  match c with
  | upload object _ => Path.components (FolderPlace.partialPath object) = Path.components other
  | delete _ => false

end StoreCall

namespace FolderPlace

variable {p : FolderPlace} {t t' : FileTree} {object other path : Text} {bytes : List UInt8}

/-- What is done on a call. -/
def errand (p : FolderPlace) : StoreCall → FileErrand (Except StoreFault Unit)
  | .upload object bytes => p.upload object bytes
  | .delete object => p.delete object

/-- The files after calls, one after another. -/
def serve (p : FolderPlace) (t : FileTree) (calls : List StoreCall) : FileTree :=
  calls.foldl (fun t c => ((p.errand c).run FileTree.answer t).2) t

theorem serve_concat (p : FolderPlace) (t : FileTree) (calls : List StoreCall) (c : StoreCall) :
    p.serve t (calls ++ [c]) = ((p.errand c).run FileTree.answer (p.serve t calls)).2 := by
  rw [serve, List.foldl_append]
  rfl

/-! ## What is stored -/

/-- **The bytes of an object**, if there is one. -/
def held (p : FolderPlace) (t : FileTree) (object : Text) : Option (List UInt8) :=
  (p.path? object).bind fun path => (t.read path).toOption

theorem held_eq_some_iff : p.held t object = some bytes ↔
    ∃ path, p.path? object = some path ∧ t.read path = .ok bytes := by
  have htoOption : ∀ r : Except FileFault (List UInt8), r.toOption = some bytes ↔ r = .ok bytes := by
    rintro (_ | _) <;> simp [Except.toOption]
  simp only [held, Option.bind_eq_some_iff, htoOption]

/-- A stored object is a file at its place. -/
theorem node?_of_held (h : p.held t object = some bytes) :
    ∃ runnable, t.node? (p.place t.here object) = some (.file bytes runnable) := by
  obtain ⟨path, hpath, hread⟩ := held_eq_some_iff.1 h
  obtain ⟨s, hs, -, hnode⟩ := FileTree.read_eq_ok_iff.1 hread
  rwa [FileTree.location_of_spot hs, locate_of_path? hpath] at hnode

theorem held_eq_none (h : ∀ bytes runnable,
    t.node? (p.place t.here object) ≠ some (.file bytes runnable)) : p.held t object = none := by
  refine Option.eq_none_iff_forall_ne_some.2 fun bytes hheld => ?_
  obtain ⟨runnable, hnode⟩ := node?_of_held hheld
  exact h bytes runnable hnode

/-- **An object that is not written to stays stored.** -/
theorem held_of_within {way places : Location → Prop} (h : FileTree.Within way places t t')
    (hplace : ¬places (p.place t.here object)) (hheld : p.held t object = some bytes) :
    p.held t' object = some bytes := by
  obtain ⟨path, hpath, hread⟩ := held_eq_some_iff.1 hheld
  refine held_eq_some_iff.2 ⟨path, hpath, h.read ?_ hread⟩
  rwa [locate_of_path? hpath]

/-! ## What a call touches -/

/-- An upload makes the directories above its object first. -/
theorem upload_eq (bytes : List UInt8) (h : p.path? object = some path) :
    ∃ above, Path.parent? path = some above ∧
      p.upload object bytes = .call (.makeDirectories above) fun
        | .error f => .done (.error (.create above f))
        | .ok () => replace path bytes := by
  obtain ⟨above, habove⟩ := Option.isSome_iff_exists.1 (parent?_of_path? h)
  refine ⟨above, habove, ?_⟩
  unfold upload
  split
  · next hnone => cases h.symm.trans hnone
  · next path' hpath' =>
    obtain rfl := Option.some.inj (h.symm.trans hpath')
    split
    · next hnone => cases habove.symm.trans hnone
    · next above' habove' =>
      obtain rfl := Option.some.inj (habove.symm.trans habove')
      rfl

/-- The places that a call writes to: that of its object and, for an upload, the one beside it. -/
def touches (p : FolderPlace) (here : Location) (c : StoreCall) (q : Location) : Prop :=
  q = p.place here c.object ∨
    (∃ bytes, c = .upload c.object bytes) ∧ q = p.place here (partialPath c.object)

theorem asks_replace {allowed : FileCall → Prop} (hwrite : allowed (.write (partialPath path) bytes))
    (hrename : allowed (.rename (partialPath path) path))
    (hremove : allowed (.remove (partialPath path))) : (replace path bytes).Asks allowed := by
  refine ⟨hwrite, ?_⟩
  rintro (_ | _)
  · trivial
  · refine ⟨hrename, ?_⟩
    rintro (_ | _)
    · exact ⟨hremove, fun _ => trivial⟩
    · trivial

/-- **The calls of an upload.** -/
theorem asks_upload {allowed : FileCall → Prop} (h : ∀ path, p.path? object = some path →
      (∀ above, Path.parent? path = some above → allowed (.makeDirectories above)) ∧
      allowed (.write (partialPath path) bytes) ∧ allowed (.rename (partialPath path) path) ∧
      allowed (.remove (partialPath path))) : (p.upload object bytes).Asks allowed := by
  cases hpath : p.path? object with
  | none =>
    rw [upload, hpath]
    trivial
  | some path =>
    obtain ⟨above, habove, hupload⟩ := upload_eq bytes hpath
    obtain ⟨hmake, hwrite, hrename, hremove⟩ := h path hpath
    rw [hupload]
    refine ⟨hmake above habove, ?_⟩
    rintro (_ | _)
    · trivial
    · exact asks_replace hwrite hrename hremove

theorem asks_delete {allowed : FileCall → Prop}
    (h : ∀ path, p.path? object = some path → allowed (.remove path)) :
    (p.delete object).Asks allowed := by
  unfold delete
  split
  · trivial
  · next path hpath =>
    refine ⟨h path hpath, fun reply => ?_⟩
    dsimp only
    split <;> trivial

/-- **A call writes to no other place.** -/
theorem errand_within (p : FolderPlace) (c : StoreCall) (t : FileTree) :
    FileTree.Within (fun _ => True) (p.touches t.here c) t ((p.errand c).run FileTree.answer t).2 := by
  refine FileTree.run_within t ?_
  cases c with
  | upload object bytes =>
    refine asks_upload fun path hpath => ?_
    have hbeside : FileTree.locate t.here (partialPath path) = _ := locate_partialPath hpath
    have hown : FileTree.locate t.here path = _ := locate_of_path? hpath
    refine ⟨fun _ _ => ⟨fun _ _ => trivial, fun _ => False.elim⟩, ⟨fun _ _ => trivial, ?_⟩,
      ⟨fun _ _ => trivial, ?_⟩, ⟨fun _ _ => trivial, ?_⟩⟩
    · rintro q rfl
      exact .inr ⟨⟨bytes, rfl⟩, hbeside⟩
    · rintro q (rfl | rfl)
      · exact .inr ⟨⟨bytes, rfl⟩, hbeside⟩
      · exact .inl hown
    · rintro q rfl
      exact .inr ⟨⟨bytes, rfl⟩, hbeside⟩
  | delete object =>
    refine asks_delete fun path hpath => ⟨fun _ _ => trivial, ?_⟩
    rintro q rfl
    exact .inl (locate_of_path? hpath)

/-! ## Calls that succeed -/

/-- Bytes are stored by writing them beside the object and moving them. -/
theorem of_run_replace (h : ((replace path bytes).run FileTree.answer t).1 = .ok ()) :
    ∃ t₁, t.write (partialPath path) bytes = .ok t₁ ∧
      t₁.rename (partialPath path) path = .ok ((replace path bytes).run FileTree.answer t).2 := by
  unfold replace at h ⊢
  simp only [Procedure.run, FileTree.answer] at h ⊢
  cases hwrite : t.write (partialPath path) bytes with
  | error f =>
    rw [hwrite] at h
    cases h
  | ok t₁ =>
    rw [hwrite] at h
    refine ⟨t₁, rfl, ?_⟩
    simp only [FileTree.changed, Procedure.run, FileTree.answer] at h ⊢
    cases hrename : t₁.rename (partialPath path) path with
    | error f =>
      rw [hrename] at h
      cases h
    | ok t₂ => rfl

theorem of_run_upload (h : ((p.upload object bytes).run FileTree.answer t).1 = .ok ()) :
    ∃ (path : Text) (t₀ t₁ : FileTree), p.path? object = some path ∧ t₀.here = t.here ∧
      t₀.write (partialPath path) bytes = .ok t₁ ∧
      t₁.rename (partialPath path) path = .ok ((p.upload object bytes).run FileTree.answer t).2 := by
  cases hpath : p.path? object with
  | none =>
    rw [upload, hpath] at h
    cases h
  | some path =>
    obtain ⟨above, -, hupload⟩ := upload_eq bytes hpath
    rw [hupload] at h ⊢
    simp only [Procedure.run, FileTree.answer] at h ⊢
    have hhere := (FileTree.makeDirectories_within (fun _ => False) t above).here
    revert h hhere
    generalize t.makeDirectories above = made
    obtain ⟨_ | _, t₀⟩ := made
    · intro h
      cases h
    · intro h hhere
      obtain ⟨t₁, hwrite, hrename⟩ := of_run_replace h
      exact ⟨path, t₀, t₁, rfl, hhere, hwrite, hrename⟩

/-- **An upload that succeeds stores its object**, and nothing is left beside it. -/
theorem of_upload (h : ((p.upload object bytes).run FileTree.answer t).1 = .ok ()) :
    p.held ((p.upload object bytes).run FileTree.answer t).2 object = some bytes ∧
      (p.place t.here (partialPath object) ≠ p.place t.here object →
        ((p.upload object bytes).run FileTree.answer t).2.node?
          (p.place t.here (partialPath object)) = none) := by
  obtain ⟨path, t₀, t₁, hpath, hhere, hwrite, hrename⟩ := of_run_upload h
  have hwithin := FileTree.answer_within (.rename (partialPath path) path) t₁
  obtain ⟨bytes', runnable, hsource, htarget, hafter, s, hs, hslash⟩ := FileTree.of_rename hrename
  rw [FileTree.answer, hrename] at hwithin
  revert hafter hwithin
  generalize ((p.upload object bytes).run FileTree.answer t).2 = t₂
  intro hwithin hafter
  obtain ⟨runnable', ht₁, hnode⟩ := FileTree.of_write hwrite
  have hhere₁ : t₁.here = t.here := by rw [ht₁, ← hhere]; rfl
  have hbeside := FileTree.ne_nil_of_node? hnode
  have hown := FileTree.ne_nil_of_node? htarget
  -- what is moved is what has been written
  have hbytes : bytes' = bytes := by
    rw [hhere₁, ← hhere, ht₁, FileTree.node?_put_self _ _ hbeside] at hsource
    exact (Node.file.inj (Option.some.inj hsource)).1.symm
  rw [hhere₁] at hsource htarget hafter hown
  rw [hhere] at hbeside
  rw [← locate_partialPath hpath, ← locate_of_path? hpath]
  refine ⟨held_eq_some_iff.2 ⟨path, hpath, FileTree.read_eq_ok_iff.2
    ⟨s, hwithin.spot hs, hslash, runnable, ?_⟩⟩, fun hne => ?_⟩
  · rw [FileTree.location_of_spot hs, hhere₁, hafter, ← hbytes]
    exact FileTree.node?_put_self _ _ hown
  · rw [hafter, FileTree.node?_put_of_ne _ _ hne, FileTree.node?_erase_self _ hbeside]

/-- **An object that has been removed is not there**, whether there was one or not. -/
theorem of_delete (h : ((p.delete object).run FileTree.answer t).1 = .ok ()) :
    p.held ((p.delete object).run FileTree.answer t).2 object = none := by
  unfold delete at h ⊢
  cases hpath : p.path? object with
  | none =>
    rw [hpath] at h
    cases h
  | some path =>
    simp only [Procedure.run, FileTree.answer]
    cases hremove : t.remove path with
    | ok t₁ =>
      obtain ⟨rfl, bytes, runnable, hnode⟩ := FileTree.of_remove hremove
      refine held_eq_none fun bytes' runnable' hfile => ?_
      change (t.erase _).node? (p.place t.here object) = _ at hfile
      rw [← locate_of_path? hpath, FileTree.node?_erase_self] at hfile
      · cases hfile
      · exact FileTree.ne_nil_of_node? (FileTree.ne_directory_of_file hnode)
    | error f =>
      -- nothing has changed, and what cannot be removed could not be read
      have hheld : p.held t object = none := by
        refine Option.eq_none_iff_forall_ne_some.2 fun bytes hheld => ?_
        obtain ⟨path', hpath', hread⟩ := held_eq_some_iff.1 hheld
        obtain rfl := Option.some.inj (hpath.symm.trans hpath')
        rw [FileTree.remove_of_read hread] at hremove
        cases hremove
      cases f <;> exact hheld

/-! ## The folder as a map -/

/-- A name that leads out of the folder is refused at once. -/
theorem run_errand_of_path? {c : StoreCall} (h : p.path? c.object = none) :
    (p.errand c).run FileTree.answer t = (.error (.name c.object), t) := by
  cases c with
  | upload object bytes =>
    have hpath : p.path? object = none := h
    rw [errand, upload, hpath]
    rfl
  | delete object =>
    have hpath : p.path? object = none := h
    rw [errand, delete, hpath]
    rfl

/-- Only objects of ordinary names are stored or removed. -/
theorem ordinary_of_ok {c : StoreCall} (h : ((p.errand c).run FileTree.answer t).1 = .ok ()) :
    Path.Ordinary c.object := by
  cases hpath : p.path? c.object with
  | none =>
    rw [run_errand_of_path? hpath] at h
    cases h
  | some path => exact (path?_eq_some_iff.1 hpath).1

theorem ordinary_of_held (h : p.held t object = some bytes) : Path.Ordinary object := by
  obtain ⟨path, hpath, -⟩ := held_eq_some_iff.1 h
  exact (path?_eq_some_iff.1 hpath).1

/-- Where a call writes, read off the names. -/
theorem touches_place_iff {here : Location} {c : StoreCall} (hobject : Path.Ordinary c.object)
    (hother : Path.Ordinary other)
    (hne : Path.components other ≠ Path.components c.object) :
    p.touches here c (p.place here other) ↔ c.passesThrough other = true := by
  rw [touches, place_eq_iff hother hobject, or_iff_right hne]
  cases c with
  | upload object bytes =>
    rw [place_eq_iff hother (ordinary_partialPath hobject)]
    simp [StoreCall.passesThrough, StoreCall.object, eq_comm]
  | delete object => simp [StoreCall.passesThrough]

/-- **A call leaves other objects alone** that it does not pass through, however it ends. -/
theorem held_errand {c : StoreCall} (hne : Path.components other ≠ Path.components c.object)
    (hthrough : ¬c.passesThrough other) (hheld : p.held t other = some bytes) :
    p.held ((p.errand c).run FileTree.answer t).2 other = some bytes := by
  cases hpath : p.path? c.object with
  | none => rwa [run_errand_of_path? hpath]
  | some path =>
    have hobject := (path?_eq_some_iff.1 hpath).1
    refine held_of_within (p.errand_within c t) (fun htouches => hthrough ?_) hheld
    exact (touches_place_iff hobject (ordinary_of_held hheld) hne).1 htouches

/-- **An object that an upload passes through is lost.** -/
theorem held_of_passesThrough {c : StoreCall}
    (h : ((p.errand c).run FileTree.answer t).1 = .ok ()) (hother : Path.Ordinary other)
    (hne : Path.components other ≠ Path.components c.object) (hthrough : c.passesThrough other) :
    p.held ((p.errand c).run FileTree.answer t).2 other = none := by
  have hobject := ordinary_of_ok h
  have hhere := (p.errand_within c t).here
  cases c with
  | upload object bytes =>
    have hbeside : p.place t.here (partialPath object) = p.place t.here other :=
      (place_eq_iff (ordinary_partialPath hobject) hother).2 (of_decide_eq_true hthrough)
    have hown : p.place t.here other ≠ p.place t.here object :=
      mt (place_eq_iff hother hobject).1 hne
    have hgone := (of_upload h).2
    rw [hbeside] at hgone
    refine held_eq_none fun bytes' runnable hfile => ?_
    rw [hhere] at hfile
    cases (hgone hown).symm.trans hfile
  | delete object => cases hthrough

/-- **What a call that succeeds leaves.**  Its own object is as the call says, and any other object
that was stored is stored with the same bytes, unless the call is an upload that is first written to
the file of that object: then the other object is gone. -/
theorem held_serve_concat (p : FolderPlace) (t : FileTree) (calls : List StoreCall) (c : StoreCall)
    (h : ((p.errand c).run FileTree.answer (p.serve t calls)).1 = .ok ()) :
    p.held (p.serve t (calls ++ [c])) c.object = c.contents ∧
      ∀ other bytes, Path.components other ≠ Path.components c.object →
        p.held (p.serve t calls) other = some bytes →
        p.held (p.serve t (calls ++ [c])) other =
          if c.passesThrough other then none else some bytes := by
  rw [serve_concat]
  generalize p.serve t calls = t at h ⊢
  refine ⟨?_, fun other bytes hne hheld => ?_⟩
  · cases c with
    | upload object bytes => exact (of_upload h).1
    | delete object => exact of_delete h
  · split_ifs with hthrough
    · exact held_of_passesThrough h (ordinary_of_held hheld) hne hthrough
    · exact held_errand hne hthrough hheld

/-- Two documents side by side: the second leaves the first as it is. -/
theorem held_serve_besides :
    let p : FolderPlace := { directory := "/srv".toList, publicUrl := [] }
    let t : FileTree := { entries := [(["srv".toList], .directory)] }
    let first := StoreCall.upload "a.pdf".toList [1]
    let second := StoreCall.upload "b.pdf".toList [2]
    ((p.errand second).run FileTree.answer (p.serve t [first])).1 = .ok () ∧
      p.held (p.serve t [first, second]) "b.pdf".toList = some [2] ∧
      p.held (p.serve t [first, second]) "a.pdf".toList = some [1] := by
  intro p t first second
  have hok : ((p.errand second).run FileTree.answer (p.serve t [first])).1 = .ok () := by
    decide +kernel
  have hstored : p.held (p.serve t [first]) "a.pdf".toList = some [1] := by decide +kernel
  obtain ⟨hown, hothers⟩ := held_serve_concat p t [first] second hok
  exact ⟨hok, hown, hothers "a.pdf".toList [1] (by decide) hstored⟩

/-- An object may have the name of an unfinished file: the second upload writes to the first object
and then moves it away, and both calls succeed. -/
theorem held_serve_part :
    let p : FolderPlace := { directory := "/srv".toList, publicUrl := [] }
    let t : FileTree := { entries := [(["srv".toList], .directory)] }
    let first := StoreCall.upload "a.part".toList [1]
    let second := StoreCall.upload "a.pdf".toList [2]
    ((p.errand first).run FileTree.answer t).1 = .ok () ∧
      ((p.errand second).run FileTree.answer (p.serve t [first])).1 = .ok () ∧
      ¬Path.components first.object <+: Path.components second.object ∧
      ¬Path.components second.object <+: Path.components first.object ∧
      p.held (p.serve t [first]) first.object = some [1] ∧
      p.held (p.serve t [first, second]) first.object = none := by
  decide +kernel

/-- **A stored object stays** until a call is about it or passes through it, whatever comes of the
calls in between. -/
theorem held_serve {calls : List StoreCall} (hheld : p.held t other = some bytes)
    (h : ∀ c ∈ calls, Path.components other ≠ Path.components c.object ∧ ¬c.passesThrough other) :
    p.held (p.serve t calls) other = some bytes := by
  induction calls generalizing t with
  | nil => exact hheld
  | cons c calls ih =>
    obtain ⟨hne, hthrough⟩ := h c List.mem_cons_self
    exact ih (held_errand hne hthrough hheld) fun c' hc' => h c' (List.mem_cons_of_mem c hc')

/-- Only objects with the extension of unfinished files are ever passed through. -/
theorem exists_of_passesThrough {c : StoreCall} (hobject : Path.Ordinary c.object)
    (h : c.passesThrough other) :
    ∃ stem, Path.fileName? other = some (stem ++ '.' :: "part".toList) := by
  cases c with
  | upload object bytes =>
    obtain ⟨name, hname, -⟩ := hobject.exists_fileName
    have hcomponents : Path.components (partialPath object) = Path.components other :=
      of_decide_eq_true h
    refine ⟨(Path.splitName name).1, ?_⟩
    rw [Path.fileName?, ← hcomponents, ← Path.fileName?]
    exact hobject.fileName?_withExtension hname part_ne_nil.2 part_ne_nil.1
  | delete object => cases h

end FolderPlace

end Conveyance
