import Conveyance.Proofs.Storage.Interleaving
import Conveyance.Proofs.Storage.Shelf

/-!
# Proofs/Storage/Sharing — uploads side by side

`FolderPlace.share` stores an object, and clears it away when that fails.  Seen from outside it makes
directories, writes beside the object, moves what it has written, and removes what is left of a
failure (`starts_share`); a `Stage` says how far it has come and **what its own two files hold at
that point**.  A step keeps the stage and changes no other file (`Stage.step`), and what others do
elsewhere does not disturb it (`Stage.undisturbed`).  So where no two uploads have a file in common,
every one of them goes as if it were alone (`stage_of_reaches`).
-/

namespace Conveyance

open FolderPlace (partialPath)

/-! ## Files at a place -/

namespace FileTree

/-- No file lies at a place. -/
def Free (t : FileTree) (q : Location) : Prop :=
  ∀ bytes runnable, t.node? q ≠ some (.file bytes runnable)

/-- A file of given bytes lies at a place. -/
def Holds (t : FileTree) (q : Location) (bytes : List UInt8) : Prop :=
  ∃ runnable, t.node? q = some (.file bytes runnable)

variable {t t' : FileTree} {way places : Location → Prop} {q : Location} {bytes : List UInt8}

theorem Free.of_within (h : t.Free q) (hwithin : Within way places t t') (hq : ¬places q) :
    t'.Free q :=
  fun bytes runnable hfile => h bytes runnable ((hwithin.file hq).1 hfile)

theorem Holds.of_within (h : t.Holds q bytes) (hwithin : Within way places t t') (hq : ¬places q) :
    t'.Holds q bytes := by
  obtain ⟨runnable, hfile⟩ := h
  exact ⟨runnable, (hwithin.file hq).2 hfile⟩

theorem holds_put (bytes : List UInt8) (runnable : Bool) (hq : t.node? q ≠ some .directory) :
    (t.put q (.file bytes runnable)).Holds q bytes :=
  ⟨runnable, node?_put_self t _ (ne_nil_of_node? hq)⟩

/-- Bytes written behind those that are there already. -/
theorem spliced_take {offset n : Nat} (hn : offset + n ≤ bytes.length) :
    spliced (bytes.take offset) offset ((bytes.drop offset).take n) = bytes.take (offset + n) := by
  have hlength : (bytes.take offset).length = offset := List.length_take_of_le (by omega)
  have hrest : ∀ k, (bytes.take offset).drop (offset + k) = [] := fun k =>
    List.drop_eq_nil_of_le (by omega)
  rw [spliced, hlength, hrest, Nat.sub_self, List.replicate_zero, List.append_nil, List.append_nil,
    List.take_take, Nat.min_self, List.take_add]

/-- **A piece is added to what the open file holds**, and nothing else changes. -/
theorem splice_spec (way places : Location → Prop) {offset n : Nat}
    (h : t.Holds q (bytes.take offset))
    (hn : offset + n ≤ bytes.length) (hplace : places q) :
    (t.splice (some q) offset ((bytes.drop offset).take n)).Holds q (bytes.take (offset + n)) ∧
      Within way places t (t.splice (some q) offset ((bytes.drop offset).take n)) := by
  obtain ⟨runnable, hfile⟩ := h
  have hnode := ne_directory_of_file hfile
  rw [splice, hfile]
  dsimp only
  rw [spliced_take hn]
  exact ⟨holds_put _ runnable hnode, within_put _ runnable hnode hplace⟩

/-- Where there is no file, none is removed. -/
theorem answer_remove_of_free {path : Text} (h : t.Free (locate t.here path)) :
    ∃ f, answer (.remove path) t = (.error f, t) := by
  rw [answer]
  cases hremove : t.remove path with
  | ok t' =>
    obtain ⟨-, bytes, runnable, hfile⟩ := of_remove hremove
    exact absurd hfile (h bytes runnable)
  | error f => exact ⟨f, rfl⟩

theorem carried_of_not_places {c : FileCall} (hq : ¬c.places t.here q) :
    t.carried c (some q) = some q := by
  unfold carried
  split
  · cases c with
    | rename source target =>
      obtain ⟨hsource, htarget⟩ := not_or.1 hq
      exact (if_neg hsource).trans (if_neg htarget)
    | remove path => exact if_neg hq
    | _ => rfl
  · rfl

end FileTree

/-! ## The course of an upload -/

namespace FolderPlace

/-- **An object stored**, and cleared away when it cannot be. -/
def share (p : FolderPlace) (object : Text) (bytes : List UInt8) :
    FileErrand (Except StoreFault Unit) :=
  (p.upload object bytes).bind fun
    | .ok () => .done (.ok ())
    | .error f => (p.delete object).bind fun _ => .done (.error f)

end FolderPlace

namespace Upload

/-- The object is removed, and a failure is reported. -/
def GivesUp (path : Text) (rest : FileErrand (Except StoreFault Unit)) : Prop :=
  ∃ next : Except FileFault Unit → _, rest = .call (.remove path) next ∧
    ∀ reply, ∃ f, next reply = .done (.error f)

/-- The unfinished file is removed, before the object is. -/
def ClearsUp (path : Text) (rest : FileErrand (Except StoreFault Unit)) : Prop :=
  ∃ next : Except FileFault Unit → _, rest = .call (.remove (partialPath path)) next ∧
    ∀ reply, GivesUp path (next reply)

/-- The finished file is moved to its object. -/
def Moves (path : Text) (rest : FileErrand (Except StoreFault Unit)) : Prop :=
  ∃ next : Except FileFault Unit → _, rest = .call (.rename (partialPath path) path) next ∧
    next (.ok ()) = .done (.ok ()) ∧ ∀ f, ClearsUp path (next (.error f))

/-- The bytes are written beside the object. -/
def Writes (path : Text) (bytes : List UInt8) (rest : FileErrand (Except StoreFault Unit)) : Prop :=
  ∃ next : Except FileFault Unit → _, rest = .call (.write (partialPath path) bytes) next ∧
    Moves path (next (.ok ())) ∧ ∀ f, GivesUp path (next (.error f))

/-- Directories are made first. -/
def Starts (path : Text) (bytes : List UInt8) (rest : FileErrand (Except StoreFault Unit)) : Prop :=
  ∃ (above : Text) (next : Except FileFault Unit → _), Path.parent? path = some above ∧
    rest = .call (.makeDirectories above) next ∧
    Writes path bytes (next (.ok ())) ∧ ∀ f, GivesUp path (next (.error f))

/-- **The course of an upload**, with all that may follow a failure. -/
theorem starts_share {p : FolderPlace} {object path : Text} (bytes : List UInt8)
    (h : p.path? object = some path) : Starts path bytes (p.share object bytes) := by
  obtain ⟨above, habove, hupload⟩ := FolderPlace.upload_eq bytes h
  have hgivesUp : ∀ f, GivesUp path
      ((p.delete object).bind fun _ => .done (.error f) : FileErrand (Except StoreFault Unit)) := by
    intro f
    rw [FolderPlace.delete, h]
    exact ⟨_, rfl, fun reply => ⟨f, by rcases reply with (_ | _) | _ <;> rfl⟩⟩
  rw [FolderPlace.share, hupload]
  refine ⟨above, _, habove, rfl, ⟨_, rfl, ⟨_, rfl, rfl, fun f => ⟨_, rfl, fun reply => ?_⟩⟩,
    fun f => ?_⟩, fun f => ?_⟩
  all_goals exact hgivesUp _

/-! ## Stages -/

/-- The two places that an upload writes to: its object, and beside it. -/
def Spots (here : Location) (path : Text) (q : Location) : Prop :=
  q = FileTree.locate here (partialPath path) ∨ q = FileTree.locate here path

/-- The places where directories may come up for an upload. -/
def Way (here : Location) (path : Text) (q : Location) : Prop :=
  ∃ above, Path.parent? path = some above ∧ FileTree.upward here above q

/-- **How far an upload has come**, and what its files hold then. -/
inductive Stage (path : Text) (bytes : List UInt8) (t : FileTree) :
    Task (Except StoreFault Unit) → Prop where
  | starting {rest : FileErrand _} (hrest : Starts path bytes rest)
    (hfree : t.Free (FileTree.locate t.here path)) : Stage path bytes t (.between rest)
  | opening {rest : FileErrand _} (hrest : Writes path bytes rest)
    (hfree : t.Free (FileTree.locate t.here path)) : Stage path bytes t (.between rest)
  | writing {offset : Nat} {next : Except FileFault Unit → FileErrand _}
    (hdone : Moves path (next (.ok ()))) (hfailed : ∀ f, GivesUp path (next (.error f)))
    (hfree : t.Free (FileTree.locate t.here path))
    (hholds : t.Holds (FileTree.locate t.here (partialPath path)) (bytes.take offset)) :
    Stage path bytes t
      (.writing (some (FileTree.locate t.here (partialPath path))) bytes offset next)
  | moving {rest : FileErrand _} (hrest : Moves path rest)
    (hfree : t.Free (FileTree.locate t.here path))
    (hholds : t.Holds (FileTree.locate t.here (partialPath path)) bytes) :
    Stage path bytes t (.between rest)
  | clearingUp {rest : FileErrand _} (hrest : ClearsUp path rest)
    (hfree : t.Free (FileTree.locate t.here path)) : Stage path bytes t (.between rest)
  | givingUp {rest : FileErrand _} (hrest : GivesUp path rest)
    (hfree : t.Free (FileTree.locate t.here path)) : Stage path bytes t (.between rest)
  | failed (f : StoreFault) (hfree : t.Free (FileTree.locate t.here path)) :
    Stage path bytes t (.between (.done (.error f)))
  | stored (hread : t.read path = .ok bytes) : Stage path bytes t (.between (.done (.ok ())))

variable {path : Text} {bytes : List UInt8} {t t' : FileTree} {c : FileCall}
  {next : c.Reply → FileErrand (Except StoreFault Unit)}
  {task task' : Task (Except StoreFault Unit)} {move : Handle → Handle}

/-- An upload asks for nothing but its own two files and the directories above them. -/
theorem Stage.names (h : Stage path bytes t (.between (.call c next))) :
    (∀ q, c.way t.here q → Way t.here path q) ∧ ∀ q, c.places t.here q → Spots t.here path q := by
  cases h with
  | starting hrest =>
    obtain ⟨above, _, habove, heq, -⟩ := hrest
    cases heq
    exact ⟨fun q hq => ⟨above, habove, hq⟩, fun q => False.elim⟩
  | opening hrest =>
    obtain ⟨_, heq, -⟩ := hrest
    cases heq
    exact ⟨fun q => False.elim, fun q => .inl⟩
  | moving hrest =>
    obtain ⟨_, heq, -⟩ := hrest
    cases heq
    exact ⟨fun q => False.elim, fun q => id⟩
  | clearingUp hrest =>
    obtain ⟨_, heq, -⟩ := hrest
    cases heq
    exact ⟨fun q => False.elim, fun q => .inl⟩
  | givingUp hrest =>
    obtain ⟨_, heq, -⟩ := hrest
    cases heq
    exact ⟨fun q => False.elim, fun q => .inr⟩

theorem Stage.refused (h : Stage path bytes t (.between (.call c next))) (f : FileFault) :
    Stage path bytes t (.between (next (.error f))) := by
  cases h with
  | starting hrest hfree =>
    obtain ⟨_, _, _, heq, -, hfailed⟩ := hrest
    cases heq
    exact .givingUp (hfailed f) hfree
  | opening hrest hfree =>
    obtain ⟨_, heq, -, hfailed⟩ := hrest
    cases heq
    exact .givingUp (hfailed f) hfree
  | moving hrest hfree =>
    obtain ⟨_, heq, -, hfailed⟩ := hrest
    cases heq
    exact .clearingUp (hfailed f) hfree
  | clearingUp hrest hfree =>
    obtain ⟨_, heq, hnext⟩ := hrest
    cases heq
    exact .givingUp (hnext _) hfree
  | givingUp hrest hfree =>
    obtain ⟨_, heq, hnext⟩ := hrest
    cases heq
    obtain ⟨f', hf'⟩ := hnext (.error f)
    rw [hf']
    exact .failed f' hfree

theorem Stage.of_write (hrest : Writes path bytes (.call c next))
    (hfree : t.Free (FileTree.locate t.here path))
    (hfree' : (FileTree.answer c t).2.Free (FileTree.locate (FileTree.answer c t).2.here path)) :
    Stage path bytes (FileTree.answer c t).2 (.between (next (FileTree.answer c t).1)) := by
  obtain ⟨_, heq, hdone, hfailed⟩ := hrest
  cases heq
  rw [FileTree.answer] at hfree' ⊢
  cases hwrite : t.write (partialPath path) bytes with
  | error f => exact .givingUp (hfailed f) hfree
  | ok t' =>
    rw [hwrite] at hfree'
    obtain ⟨runnable, rfl, hnode⟩ := FileTree.of_write hwrite
    exact .moving hdone hfree' (FileTree.holds_put bytes runnable hnode)

theorem Stage.of_rename (hrest : Moves path (.call c next))
    (hfree : t.Free (FileTree.locate t.here path))
    (hholds : t.Holds (FileTree.locate t.here (partialPath path)) bytes) :
    Stage path bytes (FileTree.answer c t).2 (.between (next (FileTree.answer c t).1)) := by
  obtain ⟨_, heq, hdone, hfailed⟩ := hrest
  cases heq
  rw [FileTree.answer]
  cases hrename : t.rename (partialPath path) path with
  | error f => exact .clearingUp (hfailed f) hfree
  | ok t' =>
    rw [FileTree.changed_ok, hdone]
    refine .stored ?_
    have hwithin := FileTree.answer_within (.rename (partialPath path) path) t
    rw [FileTree.answer, hrename] at hwithin
    obtain ⟨bytes', runnable, hsource, htarget, rfl, s, hs, hslash⟩ := FileTree.of_rename hrename
    obtain ⟨runnable', hsource'⟩ := hholds
    obtain ⟨rfl, rfl⟩ := Node.file.inj (Option.some.inj (hsource.symm.trans hsource'))
    refine FileTree.read_eq_ok_iff.2 ⟨s, hwithin.spot hs, hslash, runnable, ?_⟩
    rw [FileTree.location_of_spot hs]
    exact FileTree.node?_put_self _ _ (FileTree.ne_nil_of_node? htarget)

/-- **An answer takes an upload to its next stage.** -/
theorem Stage.answered (h : Stage path bytes t (.between (.call c next)))
    (hne : FileTree.locate t.here path ≠ FileTree.locate t.here (partialPath path)) :
    Stage path bytes (FileTree.answer c t).2 (.between (next (FileTree.answer c t).1)) := by
  have hwithin := FileTree.answer_within c t
  have hstays : t.Free (FileTree.locate t.here path) → ¬c.places t.here (FileTree.locate t.here path) →
      (FileTree.answer c t).2.Free (FileTree.locate (FileTree.answer c t).2.here path) :=
    fun hfree hplace => hwithin.here ▸ hfree.of_within hwithin hplace
  cases h with
  | starting hrest hfree =>
    obtain ⟨above, _, -, heq, hdone, hfailed⟩ := hrest
    cases heq
    have hfree' := hstays hfree not_false
    rw [FileTree.answer] at hfree' ⊢
    revert hfree'
    generalize t.makeDirectories above = made
    obtain ⟨_ | _, t'⟩ := made
    · exact fun hfree' => .givingUp (hfailed _) hfree'
    · exact fun hfree' => .opening hdone hfree'
  | opening hrest hfree =>
    refine .of_write hrest hfree (hstays hfree ?_)
    obtain ⟨_, heq, -⟩ := hrest
    cases heq
    exact hne
  | moving hrest hfree hholds => exact .of_rename hrest hfree hholds
  | clearingUp hrest hfree =>
    obtain ⟨_, heq, hnext⟩ := hrest
    cases heq
    exact .givingUp (hnext _) (hstays hfree hne)
  | givingUp hrest hfree =>
    obtain ⟨_, heq, hnext⟩ := hrest
    cases heq
    obtain ⟨f, hanswer⟩ := FileTree.answer_remove_of_free hfree
    obtain ⟨f', hf'⟩ := hnext (.error f)
    rw [hanswer, hf']
    exact .failed f' hfree

/-- **What happens elsewhere does not disturb an upload.** -/
theorem Stage.undisturbed {way places : Location → Prop} (h : Stage path bytes t task)
    (hwithin : FileTree.Within way places t t')
    (hplaces : ∀ q, Spots t.here path q → ¬places q) : Stage path bytes t' task := by
  have hbeside := hplaces _ (.inl rfl)
  have hfinal := hplaces _ (.inr rfl)
  have hstays : t.Free (FileTree.locate t.here path) → t'.Free (FileTree.locate t'.here path) :=
    fun hfree => hwithin.here ▸ hfree.of_within hwithin hfinal
  cases h with
  | starting hrest hfree => exact .starting hrest (hstays hfree)
  | opening hrest hfree => exact .opening hrest (hstays hfree)
  | writing hdone hfailed hfree hholds =>
    rw [← hwithin.here]
    exact .writing hdone hfailed (hstays hfree)
      (hwithin.here ▸ hholds.of_within hwithin hbeside)
  | moving hrest hfree hholds =>
    exact .moving hrest (hstays hfree) (hwithin.here ▸ hholds.of_within hwithin hbeside)
  | clearingUp hrest hfree => exact .clearingUp hrest (hstays hfree)
  | givingUp hrest hfree => exact .givingUp hrest (hstays hfree)
  | failed f hfree => exact .failed f (hstays hfree)
  | stored hread => exact .stored (hwithin.read hfinal hread)

/-- Only an upload that has made its directories writes. -/
theorem Stage.writes {target : Text} {written : List UInt8}
    {next : Except FileFault Unit → FileErrand (Except StoreFault Unit)}
    (h : Stage path bytes t (.between (.call (.write target written) next))) :
    Writes path bytes (.call (.write target written) next) ∧
      t.Free (FileTree.locate t.here path) := by
  cases h with
  | opening hrest hfree => exact ⟨hrest, hfree⟩
  | starting hrest =>
    obtain ⟨_, _, -, heq, -⟩ := hrest
    cases heq
  | moving hrest =>
    obtain ⟨_, heq, -⟩ := hrest
    cases heq
  | clearingUp hrest | givingUp hrest =>
    obtain ⟨_, heq, -⟩ := hrest
    cases heq

/-- **A step of an upload** takes it to a stage, and changes and moves no files but its own two. -/
theorem Stage.step (h : Stage path bytes t task)
    (hne : FileTree.locate t.here path ≠ FileTree.locate t.here (partialPath path))
    (hstep : Task.Step t task t' task' move) :
    Stage path bytes t' task' ∧
      FileTree.Within (Way t.here path) (Spots t.here path) t t' ∧
      ∀ q, ¬Spots t.here path q → move (some q) = some q := by
  cases hstep with
  | answered c next =>
    obtain ⟨hway, hplaces⟩ := h.names
    exact ⟨h.answered hne, (FileTree.answer_within c t).mono hway hplaces,
      fun q hq => FileTree.carried_of_not_places (mt (hplaces q) hq)⟩
  | refused c next f => exact ⟨h.refused f, .refl _ _ t, fun _ _ => rfl⟩
  | directory next hq hmake =>
    have hwithin : FileTree.Within (Way t.here path) (fun _ => False) t t' :=
      FileTree.makeDirectory_within hmake
        (h.names.1 _ ⟨_, hq, FileTree.ne_nil_of_makeDirectory hmake, rfl⟩)
    exact ⟨h.undisturbed hwithin fun _ _ => id, hwithin.mono (fun _ => id) fun _ => False.elim,
      fun _ _ => rfl⟩
  | opened written next hwrite =>
    obtain ⟨⟨_, heq, hdone, hfailed⟩, hfree⟩ := h.writes
    cases heq
    obtain ⟨runnable, rfl, hnode⟩ := FileTree.of_write hwrite
    have hwithin : FileTree.Within (Way t.here path)
        (· = FileTree.locate t.here (partialPath path)) t (t.put _ (.file [] runnable)) :=
      FileTree.within_put [] runnable hnode rfl
    exact ⟨.writing hdone hfailed (hfree.of_within hwithin hne)
      (FileTree.holds_put [] runnable hnode), hwithin.mono (fun _ => id) fun _ => .inl,
      fun _ _ => rfl⟩
  | filled handle next hn =>
    cases h with
    | writing hdone hfailed hfree hholds =>
      obtain ⟨hholds', hwithin⟩ := FileTree.splice_spec (Way t.here path) (· = _) hholds hn rfl
      generalize t.splice _ _ _ = t₁ at hholds' hwithin ⊢
      have hstage : Stage path bytes t₁
          (.writing (some (FileTree.locate t₁.here (partialPath path))) bytes _ next) :=
        .writing hdone hfailed (hwithin.here ▸ hfree.of_within hwithin hne)
          (hwithin.here ▸ hholds')
      rw [hwithin.here] at hstage
      exact ⟨hstage, hwithin.mono (fun _ => id) fun _ => .inl, fun _ _ => rfl⟩
  | closed handle bytes next =>
    cases h with
    | writing hdone hfailed hfree hholds =>
      rw [List.take_length] at hholds
      exact ⟨.moving hdone hfree hholds, .refl _ _ t, fun _ _ => rfl⟩
  | brokenOff handle bytes offset next f =>
    cases h with
    | writing hdone hfailed hfree hholds =>
      exact ⟨.givingUp (hfailed f) hfree, .refl _ _ t, fun _ _ => rfl⟩

/-! ## Uploads side by side -/

/-- An open file that nobody moves or removes stays open where it is. -/
theorem Stage.carried (h : Stage path bytes t task)
    (hmove : ∀ q, Spots t.here path q → move (some q) = some q) :
    Stage path bytes t (task.carry move) := by
  cases h with
  | writing hdone hfailed hfree hholds =>
    rw [Task.carry, hmove _ (.inl rfl)]
    exact .writing hdone hfailed hfree hholds
  | starting hrest hfree => exact .starting hrest hfree
  | opening hrest hfree => exact .opening hrest hfree
  | moving hrest hfree hholds => exact .moving hrest hfree hholds
  | clearingUp hrest hfree => exact .clearingUp hrest hfree
  | givingUp hrest hfree => exact .givingUp hrest hfree
  | failed f hfree => exact .failed f hfree
  | stored hread => exact .stored hread

variable {ι : Type} {path : ι → Text} {bytes : ι → List UInt8}

/-- **No two uploads have a file in common**, nor the two files of one. -/
structure Separate (here : Location) (path : ι → Text) : Prop where
  own (i : ι) : FileTree.locate here (path i) ≠ FileTree.locate here (partialPath (path i))
  others {i j : ι} (hij : i ≠ j) {q : Location} : Spots here (path i) q → ¬Spots here (path j) q

variable [DecidableEq ι] {s s' : Scene ι (Except StoreFault Unit)} {i : ι}

/-- A step of one upload keeps all at their stages, and changes no file of another. -/
theorem stage_of_step (hseparate : Separate s.files.here path)
    (h : ∀ j, Stage (path j) (bytes j) s.files (s.task j)) (hstep : Scene.Step i s s') :
    (∀ j, Stage (path j) (bytes j) s'.files (s'.task j)) ∧
      FileTree.Within (Way s.files.here (path i)) (Spots s.files.here (path i)) s.files s'.files := by
  obtain ⟨t, task, move, htask, rfl⟩ := hstep
  obtain ⟨hstage, hwithin, hmove⟩ := (h i).step (hseparate.own i) htask
  refine ⟨fun j => ?_, hwithin⟩
  by_cases hj : j = i
  · rw [hj, Scene.turn_task_self]
    exact hstage
  · have hothers : ∀ q, Spots s.files.here (path j) q → ¬Spots s.files.here (path i) q :=
      fun q => hseparate.others hj
    rw [Scene.turn_task_of_ne s hj]
    refine ((h j).undisturbed hwithin hothers).carried fun q hq => hmove q (hothers q ?_)
    rwa [← hwithin.here]

/-- **Uploads with separate files go as if each were alone**, in whatever order they take their
steps. -/
theorem stage_of_reaches (hseparate : Separate s.files.here path)
    (h : ∀ j, Stage (path j) (bytes j) s.files (s.task j)) (hreaches : s.Reaches s') :
    (∀ j, Stage (path j) (bytes j) s'.files (s'.task j)) ∧
      FileTree.Within (fun q => ∃ j, Way s.files.here (path j) q)
        (fun q => ∃ j, Spots s.files.here (path j) q) s.files s'.files := by
  induction hreaches with
  | refl => exact ⟨h, .refl _ _ _⟩
  | tail _ hstep ih =>
    obtain ⟨i, hstep⟩ := hstep
    obtain ⟨hstages, hwithin⟩ := ih
    obtain ⟨hstages', hwithin'⟩ := stage_of_step (hwithin.here ▸ hseparate) hstages hstep
    rw [hwithin.here] at hwithin'
    exact ⟨hstages', hwithin.trans
      (hwithin'.mono (fun q hq => ⟨i, hq⟩) fun q hq => ⟨i, hq⟩)⟩

/-- At every stage the object is a whole one, or there is none. -/
theorem Stage.eq_of_file {path : Text} {bytes : List UInt8} (h : Stage path bytes t task)
    {found : List UInt8} {runnable : Bool}
    (hfile : t.node? (FileTree.locate t.here path) = some (.file found runnable)) :
    found = bytes := by
  cases h with
  | stored hread =>
    obtain ⟨s, hs, -, runnable', hnode⟩ := FileTree.read_eq_ok_iff.1 hread
    rw [FileTree.location_of_spot hs] at hnode
    exact (Node.file.inj (Option.some.inj (hfile.symm.trans hnode))).1
  | starting _ hfree | opening _ hfree | writing _ _ hfree | moving _ hfree | clearingUp _ hfree
  | givingUp _ hfree | failed _ hfree => exact absurd hfile (hfree found runnable)

/-- An upload that ends well has stored its object. -/
theorem Stage.read_of_done {path : Text} {bytes : List UInt8}
    (h : Stage path bytes t (.between (.done (.ok ())))) : t.read path = .ok bytes := by
  cases h with
  | stored hread => exact hread
  | starting hrest =>
    obtain ⟨_, _, -, heq, -⟩ := hrest
    cases heq
  | opening hrest =>
    obtain ⟨_, heq, -⟩ := hrest
    cases heq
  | moving hrest =>
    obtain ⟨_, heq, -⟩ := hrest
    cases heq
  | clearingUp hrest | givingUp hrest =>
    obtain ⟨_, heq, -⟩ := hrest
    cases heq

end Upload

end Conveyance
