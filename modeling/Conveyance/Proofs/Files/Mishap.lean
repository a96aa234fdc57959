import Conveyance.Proofs.Files.Effect
import Conveyance.Proofs.Unfolding

/-!
# Proofs/Files/Mishap — what may come of a request

A tree answers each request in one way (`FileTree.answer`).  A file system may besides refuse any
request, stop making directories on the way to the one that is asked for, and **break off a write
with any part of the bytes written**; `FileCall.May` says so.  Even then a request changes nothing but
what it names (`May.within`).
-/

namespace Conveyance

theorem Path.Above.trans {p q r : Text} (h : Path.Above p q) (h' : Path.Above q r) :
    Path.Above p r := by
  induction h' with
  | self => exact h
  | up _ hr ih => exact .up ih hr

namespace FileCall

/-- **What may come of a request**: the reply, and the tree after it. -/
inductive May : (c : FileCall) → FileTree → c.Reply → FileTree → Prop where
  | answered (c : FileCall) (t : FileTree) : May c t (FileTree.answer c t).1 (FileTree.answer c t).2
  | refused (c : FileCall) (t : FileTree) (f : FileFault) : May c t (.error f) t
  /-- Directories have come up on the way. -/
  | halfMade {path q : Text} (t : FileTree) (hq : Path.Above path q) (f : FileFault) :
    May (.makeDirectories path) t (.error f) (t.makeDirectories q).2
  /-- Some of the bytes have been written. -/
  | brokenOff {path : Text} {bytes : List UInt8} {t t' : FileTree} (n : Nat)
    (h : t.write path (bytes.take n) = .ok t') (f : FileFault) :
    May (.write path bytes) t (.error f) t'

variable {t t' : FileTree} {path : Text} {bytes : List UInt8}

/-- **A request changes nothing but what it names**, whatever comes of it. -/
theorem May.within {c : FileCall} {reply : c.Reply} (h : May c t reply t') :
    FileTree.Within (c.way t.here) (c.places t.here) t t' := by
  cases h with
  | answered => exact FileTree.answer_within c t
  | refused => exact .refl _ _ t
  | halfMade _ hq =>
    refine (FileTree.makeDirectories_within _ t _).mono (fun q hway => ?_) fun _ => id
    obtain ⟨p, hp, hnil, rfl⟩ := hway
    exact ⟨p, hq.trans hp, hnil, rfl⟩
  | @brokenOff path bytes _ _ n h =>
    have hwithin := FileTree.answer_within (.write path (bytes.take n)) t
    rw [FileTree.answer, h] at hwithin
    exact hwithin

/-- A write that is reported as done is done. -/
theorem May.of_write_ok (h : May (.write path bytes) t (.ok ()) t') :
    t.write path bytes = .ok t' := by
  generalize hreply : (Except.ok () : (FileCall.write path bytes).Reply) = reply at h
  cases h with
  | answered =>
    rw [FileTree.answer] at hreply ⊢
    cases hwrite : t.write path bytes with
    | ok t₁ => rfl
    | error f =>
      rw [hwrite] at hreply
      cases hreply
  | refused | brokenOff => cases hreply

/-- **A write that fails** has not begun, or is broken off. -/
theorem May.of_write_error {f : FileFault} (h : May (.write path bytes) t (.error f) t') :
    t' = t ∨ ∃ n, t.write path (bytes.take n) = .ok t' := by
  generalize hreply : (Except.error f : (FileCall.write path bytes).Reply) = reply at h
  cases h with
  | answered =>
    rw [FileTree.answer] at hreply ⊢
    cases hwrite : t.write path bytes with
    | ok t₁ =>
      rw [hwrite] at hreply
      cases hreply
    | error f' => exact .inl rfl
  | refused => exact .inl rfl
  | brokenOff n h => exact .inr ⟨n, h⟩

theorem May.of_rename_error {source target : Text} {f : FileFault}
    (h : May (.rename source target) t (.error f) t') : t' = t := by
  generalize hreply : (Except.error f : (FileCall.rename source target).Reply) = reply at h
  cases h with
  | answered =>
    rw [FileTree.answer] at hreply ⊢
    cases hrename : t.rename source target with
    | ok t₁ =>
      rw [hrename] at hreply
      cases hreply
    | error f' => rfl
  | refused => rfl

/-- A file is removed, or nothing is changed. -/
theorem May.of_remove {reply : (FileCall.remove path).Reply} (h : May (.remove path) t reply t') :
    t.remove path = .ok t' ∨ t' = t := by
  cases h with
  | answered =>
    rw [FileTree.answer]
    cases hremove : t.remove path with
    | ok t₁ => exact .inl rfl
    | error f => exact .inr rfl
  | refused => exact .inr rfl

end FileCall

end Conveyance
