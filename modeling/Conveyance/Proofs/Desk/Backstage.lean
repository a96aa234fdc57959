import Conveyance.Proofs.Desk.InStep

/-!
# Proofs/Desk/Backstage — those who do not look at file names

A `Backstage` stands for all those that the desk calls on, as long as what they do depends on a file
name only through its length: a name may fit into a directory or not, and into the store or not.
**Two templates that differ in their names alone are then made out in step**, if their file names fit
alike (`inStep_generate`).
-/

namespace Conveyance

/-! ## File names -/

/-- The name has at most as many bytes as the limit. -/
def FileName.fits (limit : Nat) (fileName : Text) : Bool := Text.utf8Length fileName ≤ limit

theorem FileName.fits_min (limit limit' : Nat) (fileName : Text) :
    fits (min limit limit') fileName = (fits limit fileName && fits limit' fileName) := by
  rw [fits, fits, fits, ← Bool.decide_and]
  exact decide_eq_decide.2 Nat.le_min

theorem FileName.fits_mono {limit limit' : Nat} (h : limit ≤ limit') {fileName : Text}
    (hfits : fits limit fileName = true) : fits limit' fileName = true :=
  decide_eq_true (Nat.le_trans (of_decide_eq_true hfits) h)

namespace Desk

variable (desk : Desk)

/-- The file name in the name of an object. -/
def fileNameIn (object : Text) : Text := object.drop (desk.objectName []).length

theorem fileNameIn_objectName (fileName : Text) :
    desk.fileNameIn (desk.objectName fileName) = fileName := by
  rw [fileNameIn, objectName, objectName]
  split
  · rfl
  · simp

end Desk

/-! ## Answers -/

/-- **Those that the desk calls on, when none of them looks at a file name.**  They may behave in any
way; but a file whose name is too long for the file system cannot be read, and the store takes no
object whose file name is longer than `longest` bytes. -/
structure Backstage (longest : Nat) (σ : Type) where
  /-- The answers to calls without file names. -/
  ask : (c : Call) → σ → c.Reply × σ
  /-- What becomes of a document compiled into a file whose name fits, or does not. -/
  compile : Bool → TypstDocument → σ → Except CompileFault Unit × σ
  /-- What is read from a file. -/
  read : σ → Except FileFault (List UInt8) × σ
  /-- What becomes of an upload; a failure is put into words about the object. -/
  upload : List UInt8 → σ → Except (Text → Text) Unit × σ
  /-- The words in which an object is refused for its name. -/
  refusal : Text → Text
  delete : σ → Except (Text → Text) Unit × σ

namespace Backstage

variable {longest : Nat} {σ : Type} (w : Backstage longest σ) (desk : Desk) (name : Text)

/-- The template that was found, under the given name. -/
def entitled (name : Text) (found : Except Text (Option Template)) :
    Except Text (Option Template) :=
  found.map (·.map fun t => { t with name })

theorem name_of_entitled {name : Text} {found : Except Text (Option Template)} {template : Template}
    (h : entitled name found = .ok (some template)) : template.name = name := by
  rcases found with text | (_ | t)
  · cases h
  · cases h
  · exact (congrArg Template.name (Option.some.inj (Except.ok.inj h))).symm

/-- **The answers, with the given name for the template.** -/
def answer : (c : Call) → σ → c.Reply × σ
  | .template id, s => (entitled name (w.ask (.template id) s).1, (w.ask (.template id) s).2)
  | .compile fileName document, s =>
    w.compile (FileName.fits FileTree.longestName fileName) document s
  | .read fileName, s =>
    if FileName.fits FileTree.longestName fileName then w.read s else (.error .nameTooLong, s)
  | .upload object bytes, s =>
    if FileName.fits longest (desk.fileNameIn object) then
      ((w.upload bytes s).1.mapError (· object), (w.upload bytes s).2)
    else (.error (w.refusal object), s)
  | .delete object, s => ((w.delete s).1.mapError (· object), (w.delete s).2)
  | c, s => w.ask c s

/-- For the records but for the template, the name makes no difference. -/
theorem answer_eq_ask {c : Call} (hc : c.asksRegistry) (htemplate : ∀ id, c ≠ .template id) (s : σ) :
    w.answer desk name c s = w.ask c s := by
  cases c
  case template id => exact absurd rfl (htemplate id)
  case image | workDirectory | compile | read | upload | delete => cases hc
  all_goals rfl

variable {s : σ} {fileName : Text}

theorem answer_compile (document : TypstDocument) :
    w.answer desk name (.compile fileName document) s =
      w.compile (FileName.fits FileTree.longestName fileName) document s := rfl

theorem answer_read (h : FileName.fits FileTree.longestName fileName = true) :
    w.answer desk name (.read fileName) s = w.read s := if_pos h

theorem answer_read_of_long (h : FileName.fits FileTree.longestName fileName = false) :
    w.answer desk name (.read fileName) s = (.error .nameTooLong, s) :=
  if_neg (Bool.eq_false_iff.1 h)

theorem answer_upload (h : FileName.fits longest fileName = true) (bytes : List UInt8) :
    w.answer desk name (.upload (desk.objectName fileName) bytes) s =
      ((w.upload bytes s).1.mapError (· (desk.objectName fileName)), (w.upload bytes s).2) :=
  if_pos (by rwa [desk.fileNameIn_objectName])

theorem answer_upload_of_long (h : FileName.fits longest fileName = false) (bytes : List UInt8) :
    w.answer desk name (.upload (desk.objectName fileName) bytes) s =
      (.error (w.refusal (desk.objectName fileName)), s) :=
  if_neg (by rw [desk.fileNameIn_objectName]; exact Bool.eq_false_iff.1 h)

end Backstage

/-! ## Steps -/

namespace Desk

open Drafting

variable {longest : Nat} {σ : Type} (w : Backstage longest σ) (desk : Desk) (name name' : Text)

/-- The records for the targets are told in the same way. -/
theorem inStep_records {α : Type} {x : Drafting α} {t : Targets} {type : DocumentType}
    (hx : x.Makes (· ∈ t.gathering type)) :
    InStep (w.answer desk name) (w.answer desk name') (· = ·) x x := by
  refine inStep_self (hx.mono fun c hc s => ?_)
  have hasks : c.asksRegistry ∧ ∀ id, c ≠ .template id := by
    rw [Targets.gathering] at hc
    split at hc
    · exact t.asksRegistry_of_mem_lookups type c hc
    · cases hc
  rw [w.answer_eq_ask desk name hasks.1 hasks.2, w.answer_eq_ask desk name' hasks.1 hasks.2]

theorem inStep_template (id : Int) :
    InStep (w.answer desk name) (w.answer desk name')
      (fun t t' => t.content = t'.content ∧ t.name = name ∧ t'.name = name')
      (template id) (template id) := by
  rw [template_eq_ask]
  refine inStep_ask _ _ rfl fun s => ⟨rfl, ?_⟩
  have hanswer : ∀ name, (w.answer desk name (.template id) s).1 =
      Backstage.entitled name (w.ask (.template id) s).1 := fun _ => rfl
  rw [hanswer, hanswer]
  rcases (w.ask (.template id) s).1 with text | (_ | found)
  · exact rfl
  · exact rfl
  · exact ⟨rfl, rfl, rfl⟩

theorem inStep_letterhead (r : GenerateRequest) :
    InStep (w.answer desk name) (w.answer desk name') (· = ·) (letterhead r) (letterhead r) := by
  refine inStep_self ((makes_letterhead r).mono ?_)
  rintro c (⟨-, n, -, rfl⟩ | ⟨path, rfl⟩) s
  · rfl
  · rfl

variable {name name'} {fileName fileName' : Text}

theorem inStep_compile (document : TypstDocument)
    (hfit : FileName.fits FileTree.longestName fileName =
      FileName.fits FileTree.longestName fileName') :
    InStep (w.answer desk name) (w.answer desk name')
      (fun bytes bytes' => bytes = bytes' ∧ FileName.fits FileTree.longestName fileName = true)
      (compile document fileName) (compile document fileName') := by
  have hdirectory : InStep (w.answer desk name) (w.answer desk name') (fun _ _ => True)
      (ask .workDirectory (·.mapError .workDirectory))
      (ask .workDirectory (·.mapError .workDirectory)) :=
    inStep_ask _ _ rfl fun s => ⟨rfl, endAlike_mapError _ fun _ => trivial⟩
  have hcompile : InStep (w.answer desk name) (w.answer desk name') (fun _ _ => True)
      (ask (.compile fileName document) (·.mapError .compile))
      (ask (.compile fileName' document) (·.mapError .compile)) := by
    refine inStep_ask (.compile fileName document) (.compile fileName' document) rfl fun s => ?_
    rw [w.answer_compile, w.answer_compile, hfit]
    exact ⟨rfl, endAlike_mapError _ fun _ => trivial⟩
  refine hdirectory.bind fun _ _ _ => hcompile.bind fun _ _ _ =>
    inStep_ask (.read fileName) (.read fileName') rfl fun s => ?_
  cases hshort : FileName.fits FileTree.longestName fileName with
  | true =>
    rw [w.answer_read desk name hshort, w.answer_read desk name' (hfit ▸ hshort)]
    exact ⟨rfl, endAlike_mapError _ fun _ => ⟨rfl, rfl⟩⟩
  | false =>
    rw [w.answer_read_of_long desk name hshort, w.answer_read_of_long desk name' (hfit ▸ hshort)]
    exact ⟨rfl, rfl⟩

theorem inStep_share (bytes : List UInt8)
    (hfit : FileName.fits longest fileName = FileName.fits longest fileName') :
    InStep (w.answer desk name) (w.answer desk name') (· = ·)
      (share (desk.objectName fileName) bytes) (share (desk.objectName fileName') bytes) := by
  -- a failed upload is followed by one deletion, whose answer is not looked at
  have hstopped : ∀ text text', EndAlike (· = ·) (.error (.store text) : Except DocumentFault Unit)
      (.error (.store text') : Except DocumentFault Unit) := fun _ _ => rfl
  have hdelete : ∀ text text', InStep (w.answer desk name) (w.answer desk name') (· = ·)
      (ExceptT.mk (.call (.delete (desk.objectName fileName)) fun _ =>
        .done (.error (.store text) : Except DocumentFault Unit)))
      (ExceptT.mk (.call (.delete (desk.objectName fileName')) fun _ =>
        .done (.error (.store text') : Except DocumentFault Unit))) := fun text text' =>
    inStep_call (.delete (desk.objectName fileName)) (.delete (desk.objectName fileName')) rfl
      fun s => ⟨rfl, inStep_done (hstopped text text')⟩
  refine inStep_call (.upload (desk.objectName fileName) bytes)
    (.upload (desk.objectName fileName') bytes) rfl fun s => ?_
  cases hkept : FileName.fits longest fileName with
  | true =>
    rw [w.answer_upload desk name hkept, w.answer_upload desk name' (hfit ▸ hkept)]
    refine ⟨rfl, ?_⟩
    rcases (w.upload bytes s).1 with words | _
    · exact hdelete _ _
    · exact inStep_done rfl
  | false =>
    rw [w.answer_upload_of_long desk name hkept, w.answer_upload_of_long desk name' (hfit ▸ hkept)]
    exact ⟨rfl, hdelete _ _⟩

/-- **A request is made out in step under two names** whose file names fit alike into a directory,
and alike into the store when they do. -/
theorem inStep_generate (occasion : Occasion) (r : GenerateRequest)
    (hfile : FileName.documentName r.documentType name occasion.stamp = fileName)
    (hfile' : FileName.documentName r.documentType name' occasion.stamp = fileName')
    (hfit : FileName.fits FileTree.longestName fileName =
      FileName.fits FileTree.longestName fileName')
    (hkept : FileName.fits FileTree.longestName fileName = true →
      FileName.fits longest fileName = FileName.fits longest fileName') :
    InStep (w.answer desk name) (w.answer desk name') (fun g g' => g.nameless = g'.nameless)
      (desk.generate occasion r) (desk.generate occasion r) := by
  have haccept : InStep (w.answer desk name) (w.answer desk name') (· = ·)
      (accept r.complaints) (accept r.complaints) := inStep_self (makes_accept _)
  refine haccept.bind fun _ _ _ => (inStep_template w desk name name' r.template).bind ?_
  rintro template template' ⟨hcontent, hname, hname'⟩
  simp only [hcontent, hname, hname', hfile, hfile']
  refine (inStep_records w desk name name' (desk.makes_fillIn _ _ _ _)).bind ?_
  rintro rendering _ rfl
  refine (inStep_letterhead w desk name name' r).bind ?_
  rintro letterhead _ rfl
  refine (inStep_compile w desk _ hfit).bind ?_
  rintro bytes _ ⟨rfl, hshort⟩
  exact (inStep_share w desk bytes (hkept hshort)).bind fun _ _ _ => inStep_pure rfl

end Desk

end Conveyance
