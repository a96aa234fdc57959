import Conveyance.Proofs.Files.Mishap
import Conveyance.Proofs.Storage.Shelf

/-!
# Proofs/Storage/Leftover — what a failed upload leaves behind

An upload that fails has changed nothing but the file beside its object, and `StoreFault.Leaves` says
what may have become of that file: it is as it was, **or it holds what had been written when the
write was broken off**, or it is gone with all that it held before.  Deleting the object afterwards
does not reach it.  So nothing is left behind just when the file beside the object is as it was
(`nothingLeft_iff_of_upload`).
-/

namespace Conveyance

/-! ## Files -/

namespace FileTree

variable {t t' : FileTree} {way places : Location → Prop} {q own beside : Location} {path : Text}
  {bytes : List UInt8}

/-- **The bytes of the file at a place**, if one lies there. -/
def bytesAt? (t : FileTree) (q : Location) : Option (List UInt8) :=
  match t.node? q with
  | some (.file bytes _) => some bytes
  | _ => none

theorem bytesAt?_eq_some_iff :
    t.bytesAt? q = some bytes ↔ ∃ runnable, t.node? q = some (.file bytes runnable) := by
  rw [bytesAt?]
  rcases t.node? q with _ | (⟨found, runnable⟩ | _)
  · simp
  · simp
  · simp

/-- Where nothing is written, files are as they were. -/
theorem bytesAt?_of_within (h : Within way places t t') (hq : ¬places q) :
    t'.bytesAt? q = t.bytesAt? q := by
  refine Option.ext fun bytes => ?_
  rw [bytesAt?_eq_some_iff, bytesAt?_eq_some_iff]
  exact exists_congr fun runnable => h.file hq

theorem bytesAt?_of_write (h : t.write path bytes = .ok t') :
    t'.bytesAt? (locate t.here path) = some bytes := by
  obtain ⟨runnable, rfl, hnode⟩ := of_write h
  exact bytesAt?_eq_some_iff.2 ⟨runnable, node?_put_self t _ (ne_nil_of_node? hnode)⟩

theorem bytesAt?_of_remove (h : t.remove path = .ok t') :
    t'.bytesAt? (locate t.here path) = none := by
  obtain ⟨rfl, bytes, runnable, hnode⟩ := of_remove h
  rw [bytesAt?, node?_erase_self t (ne_nil_of_node? (ne_directory_of_file hnode))]

/-- **Nothing is left behind**: no file has come up, and none but the given one has changed. -/
structure NothingLeft (own : Location) (t t' : FileTree) : Prop where
  vacant {q : Location} : t.bytesAt? q = none → t'.bytesAt? q = none
  others {q : Location} : q ≠ own → t'.bytesAt? q = t.bytesAt? q

/-- Where only two files may have changed, it depends on them. -/
theorem nothingLeft_iff (h : ∀ q, q ≠ own → q ≠ beside → t'.bytesAt? q = t.bytesAt? q) :
    NothingLeft own t t' ↔ (own ≠ beside → t'.bytesAt? beside = t.bytesAt? beside) ∧
      (t.bytesAt? own = none → t'.bytesAt? own = none) := by
  refine ⟨fun hleft => ⟨fun hne => hleft.others hne.symm, hleft.vacant⟩, ?_⟩
  rintro ⟨hbeside, hown⟩
  have hothers : ∀ q, q ≠ own → t'.bytesAt? q = t.bytesAt? q := fun q hq => by
    by_cases hplace : q = beside
    · rw [hplace] at hq ⊢
      exact hbeside hq.symm
    · exact h q hq hplace
  refine ⟨fun {q} hq => ?_, fun {q} => hothers q⟩
  by_cases hplace : q = own
  · rw [hplace] at hq ⊢
    exact hown hq
  · rwa [hothers q hplace]

end FileTree

/-! ## Uploads that fail -/

/-- **What a failed upload makes of the file beside its object.**  Only a write may have begun, and
what cannot be moved to its object is removed again, if it can be. -/
def StoreFault.Leaves (bytes : List UInt8) (before after : Option (List UInt8)) : StoreFault → Prop
  | name _ | create .. => after = before
  | write .. => after = before ∨ ∃ n, after = some (bytes.take n)
  | store .. => after = none ∨ after = some bytes
  | delete .. => False

namespace FolderPlace

open FileTree (NothingLeft)

variable {p : FolderPlace} {object path : Text} {bytes : List UInt8} {t t' t'' : FileTree}
  {f : StoreFault} {ms ms' : List (Procedure.Moment FileCall FileCall.Reply FileTree)}

/-- A request that names no place but one leaves the other files as they are. -/
theorem bytesAt?_of_may {c : FileCall} {reply : c.Reply} (h : FileCall.May c t reply t')
    {beside q : Location} (hc : ∀ q, c.places t.here q → q = beside) (hq : q ≠ beside) :
    t'.bytesAt? q = t.bytesAt? q :=
  FileTree.bytesAt?_of_within h.within (mt (hc q) hq)

/-- A failure to write beside an object, or to move what has been written. -/
theorem leaves_of_replace {beside : Location}
    (hbeside : FileTree.locate t.here (partialPath path) = beside)
    (h : (replace path bytes).Unfolds FileCall.May t ms (.error f) t') :
    f.Leaves bytes (t.bytesAt? beside) (t'.bytesAt? beside) ∧ t'.here = t.here ∧
      ∀ q, q ≠ beside → t'.bytesAt? q = t.bytesAt? q := by
  obtain ⟨reply, t₁, ms₁, hwrite, h₁, -⟩ := h.of_call
  have hhere := hwrite.within.here
  have hothers₁ := fun q => bytesAt?_of_may (q := q) hwrite
    (fun q hq => (hq : q = FileTree.locate t.here _).trans hbeside)
  rcases reply with fault | _
  · obtain ⟨-, hf, rfl⟩ := h₁.of_done
    obtain rfl := Except.error.inj hf
    refine ⟨?_, hhere, hothers₁⟩
    rcases hwrite.of_write_error with rfl | ⟨n, hbroken⟩
    · exact .inl rfl
    · exact .inr ⟨n, hbeside ▸ FileTree.bytesAt?_of_write hbroken⟩
  · obtain ⟨reply, t₂, ms₂, hrename, h₂, -⟩ := h₁.of_call
    rcases reply with fault | _
    · obtain ⟨reply, t₃, ms₃, hremove, h₃, -⟩ := h₂.of_call
      obtain ⟨-, hf, rfl⟩ := h₃.of_done
      obtain rfl := Except.error.inj hf
      rw [hrename.of_rename_error] at hremove
      have hbeside₁ : FileTree.locate t₁.here (partialPath path) = beside := hhere ▸ hbeside
      have hothers₂ := fun q => bytesAt?_of_may (q := q) hremove
        (fun q hq => (hq : q = FileTree.locate t₁.here _).trans hbeside₁)
      refine ⟨?_, hremove.within.here.trans hhere, fun q hq =>
        (hothers₂ q hq).trans (hothers₁ q hq)⟩
      rcases hremove.of_remove with hremoved | rfl
      · exact .inl (hbeside₁ ▸ FileTree.bytesAt?_of_remove hremoved)
      · exact .inr (hbeside ▸ FileTree.bytesAt?_of_write hwrite.of_write_ok)
    · cases h₂.of_done.2.1

/-- **A failed upload has changed nothing but the file beside its object.** -/
theorem leaves_of_upload (h : (p.upload object bytes).Unfolds FileCall.May t ms (.error f) t') :
    f.Leaves bytes (t.bytesAt? (p.place t.here (partialPath object)))
        (t'.bytesAt? (p.place t.here (partialPath object))) ∧ t'.here = t.here ∧
      ∀ q, q ≠ p.place t.here (partialPath object) → t'.bytesAt? q = t.bytesAt? q := by
  cases hpath : p.path? object with
  | none =>
    rw [upload, hpath] at h
    obtain ⟨-, hf, rfl⟩ := h.of_done
    obtain rfl := Except.error.inj hf
    exact ⟨rfl, rfl, fun _ _ => rfl⟩
  | some path =>
    obtain ⟨above, -, hupload⟩ := upload_eq bytes hpath
    rw [hupload] at h
    obtain ⟨reply, t₁, ms₁, hmake, h, -⟩ := h.of_call
    have hhere := hmake.within.here
    have hsame : ∀ q, t₁.bytesAt? q = t.bytesAt? q := fun q =>
      FileTree.bytesAt?_of_within hmake.within not_false
    rcases reply with fault | _
    · obtain ⟨-, hf, rfl⟩ := h.of_done
      obtain rfl := Except.error.inj hf
      exact ⟨hsame _, hhere, fun q _ => hsame q⟩
    · have hbeside : FileTree.locate t₁.here (partialPath path) =
          p.place t.here (partialPath object) := hhere ▸ locate_partialPath hpath
      obtain ⟨hleaves, hhere', hothers⟩ := leaves_of_replace hbeside h
      rw [hsame] at hleaves
      exact ⟨hleaves, hhere'.trans hhere, fun q hq => (hothers q hq).trans (hsame q)⟩

/-- Deleting an object changes no other file, and the object is gone or as it was. -/
theorem bytesAt?_of_delete {r : Except StoreFault Unit}
    (h : (p.delete object).Unfolds FileCall.May t ms r t') :
    (t'.bytesAt? (p.place t.here object) = none ∨
        t'.bytesAt? (p.place t.here object) = t.bytesAt? (p.place t.here object)) ∧
      ∀ q, q ≠ p.place t.here object → t'.bytesAt? q = t.bytesAt? q := by
  cases hpath : p.path? object with
  | none =>
    rw [delete, hpath] at h
    obtain ⟨-, -, rfl⟩ := h.of_done
    exact ⟨.inr rfl, fun _ _ => rfl⟩
  | some path =>
    have hown : FileTree.locate t.here path = p.place t.here object := locate_of_path? hpath
    rw [delete, hpath] at h
    obtain ⟨reply, t₁, ms₁, hremove, h, -⟩ := h.of_call
    have hend : t' = t₁ := by
      rcases reply with (_ | _) | _ <;> exact h.of_done.2.2
    rw [hend]
    refine ⟨?_, fun q => bytesAt?_of_may hremove fun q hq =>
      (hq : q = FileTree.locate t.here _).trans hown⟩
    rcases hremove.of_remove with hremoved | rfl
    · exact .inl (hown ▸ FileTree.bytesAt?_of_remove hremoved)
    · exact .inr rfl

/-- **What a failed upload leaves, before and after its object is deleted.**  The file beside the
object is as the failure leaves it, and deleting the object does not reach it: nothing is left behind
just when that file is as it was.  An object that is its own file beside has nothing else to leave. -/
theorem nothingLeft_iff_of_upload {r : Except StoreFault Unit}
    (hupload : (p.upload object bytes).Unfolds FileCall.May t ms (.error f) t')
    (hdelete : (p.delete object).Unfolds FileCall.May t' ms' r t'') :
    let own := p.place t.here object
    let beside := p.place t.here (partialPath object)
    f.Leaves bytes (t.bytesAt? beside) (t'.bytesAt? beside) ∧
      (own ≠ beside → t''.bytesAt? beside = t'.bytesAt? beside ∧
        (NothingLeft own t t' ↔ t'.bytesAt? beside = t.bytesAt? beside) ∧
        (NothingLeft own t t'' ↔ t'.bytesAt? beside = t.bytesAt? beside)) ∧
      (own = beside →
        (NothingLeft own t t' ↔ (t.bytesAt? own = none → t'.bytesAt? own = none)) ∧
        (NothingLeft own t t'' ↔ (t.bytesAt? own = none → t''.bytesAt? own = none))) := by
  intro own beside
  obtain ⟨hleaves, hhere, hothers⟩ := leaves_of_upload hupload
  obtain ⟨hown, hothers'⟩ := bytesAt?_of_delete hdelete
  rw [hhere] at hown hothers'
  have hleft : NothingLeft own t t' ↔ _ := FileTree.nothingLeft_iff fun q _ => hothers q
  have hleft' : NothingLeft own t t'' ↔ _ := FileTree.nothingLeft_iff fun q hq hbeside =>
    (hothers' q hq).trans (hothers q hbeside)
  refine ⟨hleaves, fun hne => ?_, fun heq => ?_⟩
  · -- the object itself is as it was, or deleted
    have hsame : t'.bytesAt? own = t.bytesAt? own := hothers own hne
    have hbeside : t''.bytesAt? beside = t'.bytesAt? beside := hothers' beside hne.symm
    refine ⟨hbeside, ?_, ?_⟩
    · rw [hleft]
      exact ⟨fun h => h.1 hne, fun h => ⟨fun _ => h, fun hnone => hsame.trans hnone⟩⟩
    · rw [hleft', hbeside]
      exact ⟨fun h => h.1 hne, fun h => ⟨fun _ => h, fun hnone =>
        hown.elim id fun hkept => hkept.trans (hsame.trans hnone)⟩⟩
  · rw [hleft, hleft']
    exact ⟨and_iff_right (absurd heq), and_iff_right (absurd heq)⟩

/-- A write is broken off after the first of two bytes; the byte stays, also when the object has been
deleted. -/
theorem nothingLeft_brokenOff :
    let p : FolderPlace := { directory := "/srv".toList, publicUrl := [] }
    let t : FileTree := { entries := [(["srv".toList], .directory)] }
    let object := "a.pdf".toList
    let own := p.place t.here object
    let beside := p.place t.here (partialPath object)
    let t' := t.put beside (.file [1] false)
    (∃ ms f, (p.upload object [1, 2]).Unfolds FileCall.May t ms (.error f) t') ∧
      (∃ ms, (p.delete object).Unfolds FileCall.May t' ms (.ok ()) t') ∧
      t.bytesAt? beside = none ∧ t'.bytesAt? beside = some [1] ∧ ¬NothingLeft own t t' := by
  intro p t object own beside t'
  have hpath : p.path? object = some "/srv/a.pdf".toList := by decide +kernel
  have hmade : FileCall.May (.makeDirectories "/srv".toList) t (.ok ()) t := by
    have hanswer : t.makeDirectories "/srv".toList = (.ok (), t) := by decide +kernel
    have hmay := FileCall.May.answered (.makeDirectories "/srv".toList) t
    rwa [FileTree.answer, hanswer] at hmay
  have hbroken : FileCall.May (.write "/srv/a.part".toList [1, 2]) t (.error .denied) t' :=
    .brokenOff 1 (by decide +kernel) .denied
  have hupload : ∃ ms, (p.upload object [1, 2]).Unfolds FileCall.May t ms
      (.error (.write "/srv/a.part".toList .denied)) t' := by
    obtain ⟨above, habove, hupload⟩ := upload_eq [1, 2] hpath
    obtain rfl : "/srv".toList = above := Option.some.inj habove
    rw [hupload]
    exact ⟨_, .call hmade (.call hbroken (.done _ _))⟩
  have hdelete : ∃ ms, (p.delete object).Unfolds FileCall.May t' ms (.ok ()) t' :=
    ⟨_, .call (.refused (.remove "/srv/a.pdf".toList) t' .noEntry) (.done _ _)⟩
  obtain ⟨ms, hupload⟩ := hupload
  obtain ⟨ms', hdelete⟩ := hdelete
  have hbefore : t.bytesAt? beside = none := by decide +kernel
  have hafter : t'.bytesAt? beside = some [1] := by decide +kernel
  obtain ⟨-, hne, -⟩ := nothingLeft_iff_of_upload hupload hdelete
  refine ⟨⟨ms, _, hupload⟩, ⟨ms', hdelete⟩, hbefore, hafter, fun hleft => ?_⟩
  have hsame := (hne (by decide +kernel)).2.1.1 hleft
  rw [hbefore, hafter] at hsame
  cases hsame

/-- An object that lies where another is first written to is destroyed by an upload that fails. -/
theorem nothingLeft_part :
    let p : FolderPlace := { directory := "/srv".toList, publicUrl := [] }
    let root : FileTree := { entries := [(["srv".toList], .directory)] }
    let t := p.serve root [.upload "a.part".toList [1], .upload "a.pdf/b".toList [2]]
    let object := "a.pdf".toList
    let own := p.place t.here object
    let t' := ((p.upload object [3]).run FileTree.answer t).2
    let t'' := ((p.delete object).run FileTree.answer t').2
    ((p.upload object [3]).run FileTree.answer t).1 =
        .error (.store "/srv/a.pdf".toList .isDirectory) ∧
      p.held t "a.part".toList = some [1] ∧
      ¬NothingLeft own t t' ∧ ¬NothingLeft own t t'' := by
  intro p root t object own t' t''
  have hplace : p.place t.here "a.part".toList ≠ own := by decide +kernel
  have hbefore : t.bytesAt? (p.place t.here "a.part".toList) = some [1] := by decide +kernel
  have hafter : t'.bytesAt? (p.place t.here "a.part".toList) = none ∧
      t''.bytesAt? (p.place t.here "a.part".toList) = none := by decide +kernel
  refine ⟨by decide +kernel, by decide +kernel, fun hleft => ?_, fun hleft => ?_⟩
  · cases hbefore.symm.trans ((hleft.others hplace).symm.trans hafter.1)
  · cases hbefore.symm.trans ((hleft.others hplace).symm.trans hafter.2)

end FolderPlace

end Conveyance
