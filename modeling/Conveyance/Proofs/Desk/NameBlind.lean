import Conveyance.Proofs.Checked.Cut
import Conveyance.Proofs.Desk.Backstage
import Conveyance.Proofs.Desk.Lookups
import Conveyance.Proofs.Desk.SideBySide

/-!
# Proofs/Desk/NameBlind — what the name of a template decides

The name of a template goes into the file name of its document and nowhere else.  Whoever does not
look at file names (`Backstage`) therefore shows the same for two names whose file names fit alike,
and **a file name that is too long is all that the name can keep a document from being made by**
(`seen_eq_iff_fits`).  A store in a folder takes names that leave a byte to spare
(`Job.fits_of_upload`).
-/

namespace Conveyance

/-! ## What is seen -/

namespace Desk

open Drafting

variable {longest : Nat} {σ : Type} (w : Backstage longest σ) (desk : Desk) {name name' : Text}

/-- **What is seen of a request** by one who reads no file names: its calls and how it ends. -/
def seen (occasion : Occasion) (r : GenerateRequest) (name : Text) (s : σ) :
    List Call × Except DocumentFault Generated :=
  (((desk.generate occasion r).run.calls (w.answer desk name) s).map Call.nameless,
    (((desk.generate occasion r).run.run (w.answer desk name) s).1.mapError
      DocumentFault.nameless).map Generated.nameless)

theorem seen_eq {occasion : Occasion} {r : GenerateRequest}
    (h : InStep (w.answer desk name) (w.answer desk name') (fun g g' => g.nameless = g'.nameless)
      (desk.generate occasion r) (desk.generate occasion r)) (s : σ) :
    seen w desk occasion r name s = seen w desk occasion r name' s :=
  Prod.ext (h.calls s) (h.ends s).map_eq

/-- A document that is made under one name is seen. -/
theorem exists_ok_of_seen_eq {occasion : Occasion} {r : GenerateRequest} {s : σ}
    (hseen : seen w desk occasion r name s = seen w desk occasion r name' s) {g : Generated}
    (h : ((desk.generate occasion r).run.run (w.answer desk name) s).1 = .ok g) :
    ∃ g', ((desk.generate occasion r).run.run (w.answer desk name') s).1 = .ok g' := by
  have hends := congrArg Prod.snd hseen
  rw [seen, seen, h] at hends
  rcases hresult : ((desk.generate occasion r).run.run (w.answer desk name') s).1 with fault | g'
  · rw [hresult] at hends
    cases hends
  · exact ⟨g', rfl⟩

/-- **A document is made only under a name that fits** into a directory and into the store. -/
theorem fits_of_ok {occasion : Occasion} {r : GenerateRequest} {s : σ} {g : Generated}
    (h : ((desk.generate occasion r).run.run (w.answer desk name) s).1 = .ok g) :
    FileName.fits (min longest FileTree.longestName)
      (FileName.documentName r.documentType name occasion.stamp) = true := by
  have hgoes : (desk.generate occasion r).Goes
      ((desk.generate occasion r).run.exchanges (w.answer desk name) s) (.ok g) :=
    h ▸ Procedure.runs_exchanges (w.answer desk name) (desk.generate occasion r).run s
  obtain ⟨template, gathered, head, document, bytes, hes, -, -, hg⟩ := shared_of_goes hgoes
  have hreply : ∀ e : Event, e ∈ (desk.generate occasion r).run.exchanges (w.answer desk name) s →
      ∃ s', e.reply = (w.answer desk name e.call s').1 := fun e he => Procedure.exists_reply_eq he
  rw [hes] at hreply
  have hname : template.name = name := by
    obtain ⟨s', hfound⟩ := hreply ⟨.template r.template, .ok (some template)⟩ (by simp)
    exact Backstage.name_of_entitled hfound.symm
  obtain ⟨s₁, hread⟩ := hreply ⟨.read g.fileName, .ok bytes⟩ (by simp)
  obtain ⟨s₂, hupload⟩ := hreply ⟨.upload (desk.objectName g.fileName) bytes, .ok ()⟩ (by simp)
  have hfile : g.fileName = FileName.documentName r.documentType name occasion.stamp := by
    rw [← hname]
    exact congrArg Generated.fileName hg
  rw [← hfile, FileName.fits_min, Bool.and_eq_true]
  constructor
  · by_contra hlong
    rw [Bool.not_eq_true] at hlong
    dsimp only at hupload
    rw [w.answer_upload_of_long desk name hlong] at hupload
    cases hupload
  · by_contra hlong
    rw [Bool.not_eq_true] at hlong
    dsimp only at hread
    rw [w.answer_read_of_long desk name hlong] at hread
    cases hread

end Desk

/-! ## Where everything is ready -/

namespace Backstage

/-- The records of `ready`: one empty template. -/
def oneTemplate (id : Int) : Rehearsal where
  records := { templates := [{ id, name := [], content := [] }] }

/-- One empty template and no other records, and everybody does what is asked. -/
def ready (longest : Nat) (template : Int) : Backstage longest Unit where
  ask c s := (((oneTemplate template).answer c none).1, s)
  compile _ _ s := (.ok (), s)
  read s := (.ok [], s)
  upload _ s := (.ok (), s)
  refusal := id
  delete s := (.ok (), s)

end Backstage

namespace Drafting

variable {α β σ : Type} {answer : (c : Call) → σ → c.Reply × σ} {x : Drafting α}

/-- The action has a result and leaves everything as it is. -/
def Yields (answer : (c : Call) → σ → c.Reply × σ) (x : Drafting α) (a : α) : Prop :=
  ∀ s, x.run.run answer s = (.ok a, s)

theorem yields_pure (a : α) : Yields answer (pure a) a := fun _ => rfl

theorem Yields.bind {f : α → Drafting β} {a : α} {b : β} (hx : Yields answer x a)
    (hf : Yields answer (f a) b) : Yields answer (x >>= f) b :=
  fun s => (run_bind_ok (hx s)).trans (hf s)

/-- Questions that are answered with blanks yield a blank. -/
theorem yields_consult {ι : Type} {blank : α} {at? : Option ι} {c : ι → Call}
    {told : ∀ i, (c i).Reply → Except Text α}
    (h : ∀ i s, told i (answer (c i) s).1 = .ok blank ∧ (answer (c i) s).2 = s) :
    Yields answer (consult blank at? c told) blank := by
  intro s
  rcases at? with _ | i
  · rfl
  · change ((told i (answer (c i) s).1).mapError DocumentFault.records, (answer (c i) s).2) = _
    rw [(h i s).1, (h i s).2]
    rfl

theorem yields_lookUp {id? : Option Int} {c : Int → Call}
    {told : ∀ n, (c n).Reply → Except Text (Option α)}
    (h : ∀ n s, told n (answer (c n) s).1 = .ok none ∧ (answer (c n) s).2 = s) :
    Yields answer (lookUp id? c told) none := by
  rw [lookUp_eq_consult]
  exact yields_consult h

theorem yields_list {id? : Option Int} {c : Int → Call}
    {told : ∀ n, (c n).Reply → Except Text (List α)}
    (h : ∀ n s, told n (answer (c n) s).1 = .ok [] ∧ (answer (c n) s).2 = s) :
    Yields answer (list id? c told) [] := by
  rw [list_eq_consult]
  exact yields_consult h

theorem yields_within {t : Targets} {c : Scope → Call}
    {told : ∀ scope, (c scope).Reply → Except Text (List α)}
    (h : ∀ scope s, told scope (answer (c scope) s).1 = .ok [] ∧ (answer (c scope) s).2 = s) :
    Yields answer (within (Scope.ofTargets t) c told) [] := by
  rw [within_eq_consult]
  exact yields_consult h

end Drafting

namespace Backstage

open Drafting

variable (longest : Nat) (template : Int) (desk : Desk) (name : Text)

theorem yields_current (type : DocumentType) (t : Targets) :
    Yields ((ready longest template).answer desk name) (current type t) none := by
  rcases type with _ | _ | _
  · exact yields_pure none
  · exact (yields_lookUp fun _ _ => ⟨rfl, rfl⟩).bind (yields_pure none)
  · exact (yields_lookUp fun _ _ => ⟨rfl, rfl⟩).bind (yields_pure none)

theorem yields_assemble (type : DocumentType) (t : Targets) (today : Date) :
    Yields ((ready longest template).answer desk name) (assemble type t today)
      (.empty type today) := by
  by_cases ht : t.arePossible = true
  · rw [assemble, if_pos ht]
    refine (yields_lookUp fun _ _ => ⟨rfl, rfl⟩).bind ?_
    refine (yields_lookUp fun _ _ => ⟨rfl, rfl⟩).bind ?_
    refine (yields_lookUp fun _ _ => ⟨rfl, rfl⟩).bind ?_
    refine (yields_lookUp fun _ _ => ⟨rfl, rfl⟩).bind ?_
    refine (yields_list fun _ _ => ⟨rfl, rfl⟩).bind ?_
    refine (yields_list fun _ _ => ⟨rfl, rfl⟩).bind ?_
    refine (yields_within fun _ _ => ⟨rfl, rfl⟩).bind ?_
    refine (yields_within fun _ _ => ⟨rfl, rfl⟩).bind ?_
    refine (yields_within fun _ _ => ⟨rfl, rfl⟩).bind ?_
    exact (yields_current longest template desk name type t).bind (yields_pure _)
  · rw [assemble, if_neg ht]
    exact yields_pure _

theorem exists_yields_fillIn (type : DocumentType) (t : Targets) (today : Date) (content : Text) :
    ∃ rendering, Yields ((ready longest template).answer desk name)
      (desk.fillIn today type t content) rendering := by
  obtain ⟨rendering, hrendering⟩ := exists_renderTemplate?_empty desk.format content type today
  refine ⟨rendering, (yields_assemble longest template desk name type t today).bind ?_⟩
  simp only [hrendering]
  exact yields_pure rendering

theorem yields_letterhead (r : GenerateRequest) :
    Yields ((ready longest template).answer desk name) (letterhead r) .blank := by
  rw [letterhead]
  rcases r.letterhead with _ | _
  · exact yields_pure _
  · exact (yields_lookUp fun _ _ => ⟨rfl, rfl⟩).bind (yields_pure _)

theorem yields_template :
    Yields ((ready longest template).answer desk name) (Desk.template template)
      { id := template, name, content := [] } := by
  intro s
  refine Desk.run_template_eq_ok_iff.2 ?_
  have hfound : (oneTemplate template).records.templates.find? (·.id = template) =
      some { id := template, name := [], content := [] } :=
    List.find?_cons_of_pos (decide_eq_true rfl)
  change (entitled name (.ok ((oneTemplate template).records.templates.find? (·.id = template))), s)
    = _
  rw [hfound]
  rfl

variable {longest template desk name} {fileName : Text}

/-- A document can be compiled, and then its file is read. -/
theorem run_compile (document : TypstDocument) :
    (Desk.compile document fileName).run.run ((ready longest template).answer desk name) () =
      (if FileName.fits FileTree.longestName fileName then .ok [] else .error (.read .nameTooLong),
        ()) := by
  have hdirectory : Yields ((ready longest template).answer desk name)
      (Drafting.ask .workDirectory (·.mapError .workDirectory)) () := fun _ => rfl
  have hcompile : Yields ((ready longest template).answer desk name)
      (Drafting.ask (.compile fileName document) (·.mapError .compile)) () := fun _ => rfl
  rw [Desk.compile, run_bind_ok (hdirectory ()), run_bind_ok (hcompile ()), run_ask]
  cases hshort : FileName.fits FileTree.longestName fileName with
  | true =>
    rw [answer_read _ _ _ hshort]
    rfl
  | false =>
    rw [answer_read_of_long _ _ _ hshort]
    rfl

theorem run_share (bytes : List UInt8) :
    (Desk.share (desk.objectName fileName) bytes).run.run
        ((ready longest template).answer desk name) () =
      (if FileName.fits longest fileName then .ok ()
        else .error (.store (desk.objectName fileName)), ()) := by
  change Procedure.run _ (Procedure.call (Call.upload (desk.objectName fileName) bytes) _) () = _
  cases hkept : FileName.fits longest fileName with
  | true =>
    rw [Procedure.run, answer_upload _ _ _ hkept]
    rfl
  | false =>
    rw [Procedure.run, answer_upload_of_long _ _ _ hkept]
    rfl

/-- **Where everything is ready, the name alone decides**: it may be too long to be read or too long
to be stored. -/
theorem seen_ready {occasion : Occasion} {r : GenerateRequest} (hr : r.complaints = [])
    (hfile : FileName.documentName r.documentType name occasion.stamp = fileName) :
    (Desk.seen (ready longest r.template) desk occasion r name ()).2 =
      if FileName.fits FileTree.longestName fileName then
        if FileName.fits longest fileName then
          .ok { fileName := [], url := [], size := 0, documentType := r.documentType }
        else .error (.store [])
      else .error (.read .nameTooLong) := by
  obtain ⟨rendering, hfill⟩ := exists_yields_fillIn longest r.template desk name r.documentType
    r.targets occasion.today []
  have hresult : ((desk.generate occasion r).run.run
      ((ready longest r.template).answer desk name) ()).1 = ((do
      let bytes ← Desk.compile (Typst.document desk.layout .blank rendering.blocks) fileName
      Desk.share (desk.objectName fileName) bytes
      return { fileName, url := desk.address (desk.objectName fileName), size := bytes.length,
               documentType := r.documentType } : Drafting Generated).run.run
        ((ready longest r.template).answer desk name) ()).1 := by
    refine congrArg Prod.fst ((run_bind_ok (Desk.run_accept hr)).trans ?_)
    refine (run_bind_ok (yields_template longest r.template desk name ())).trans ?_
    simp only [hfile]
    refine (run_bind_ok (hfill ())).trans ?_
    exact run_bind_ok (yields_letterhead longest r.template desk name r ())
  rw [Desk.seen, hresult]
  cases hshort : FileName.fits FileTree.longestName fileName with
  | false =>
    rw [run_bind_error ((run_compile _).trans (by rw [hshort]; rfl))]
    rfl
  | true =>
    rw [run_bind_ok ((run_compile _).trans (by rw [hshort]; rfl))]
    cases hkept : FileName.fits longest fileName with
    | true =>
      rw [run_bind_ok ((run_share []).trans (by rw [hkept]; rfl))]
      rfl
    | false =>
      rw [run_bind_error ((run_share []).trans (by rw [hkept]; rfl))]
      rfl

theorem fits_of_seen {occasion : Occasion} {r : GenerateRequest} {name' : Text}
    (hr : r.complaints = [])
    (h : Desk.seen (ready longest r.template) desk occasion r name () =
      Desk.seen (ready longest r.template) desk occasion r name' ()) :
    let fileName := FileName.documentName r.documentType name occasion.stamp
    let fileName' := FileName.documentName r.documentType name' occasion.stamp
    FileName.fits FileTree.longestName fileName = FileName.fits FileTree.longestName fileName' ∧
      FileName.fits (min longest FileTree.longestName) fileName =
        FileName.fits (min longest FileTree.longestName) fileName' := by
  intro fileName fileName'
  have hends := congrArg Prod.snd h
  rw [seen_ready hr rfl, seen_ready hr rfl] at hends
  rw [FileName.fits_min, FileName.fits_min]
  -- the three ends are different, so each pair of ends tells the lengths apart
  revert hends
  cases FileName.fits FileTree.longestName fileName <;>
    cases FileName.fits FileTree.longestName fileName' <;>
    cases FileName.fits longest fileName <;> cases FileName.fits longest fileName' <;> simp

end Backstage

/-! ## Two names -/

namespace Desk

variable {longest : Nat} {σ : Type} (w : Backstage longest σ) (desk : Desk) {name name' : Text}

/-- Names that fit alike show the same. -/
theorem seen_eq_of_fits {occasion : Occasion} {r : GenerateRequest} {fileName fileName' : Text}
    (hfile : FileName.documentName r.documentType name occasion.stamp = fileName)
    (hfile' : FileName.documentName r.documentType name' occasion.stamp = fileName')
    (hfit : FileName.fits FileTree.longestName fileName =
      FileName.fits FileTree.longestName fileName')
    (hboth : FileName.fits (min longest FileTree.longestName) fileName =
      FileName.fits (min longest FileTree.longestName) fileName') (s : σ) :
    seen w desk occasion r name s = seen w desk occasion r name' s := by
  refine seen_eq w desk (inStep_generate w desk occasion r hfile hfile' hfit fun hshort => ?_) s
  rwa [FileName.fits_min, FileName.fits_min, ← hfit, hshort, Bool.and_true, Bool.and_true] at hboth

/-- **The name of a template matters only where a file name is too long.**  For two names a request
shows the same calls and the same end, whoever is called on without looking at file names, just when
it is refused or the two file names fit alike, into a directory and into both directory and store.
Where there is a document under one name, there is one under the other just when that one's file
name fits into both. -/
theorem seen_eq_iff_fits (desk : Desk) (occasion : Occasion) (r : GenerateRequest) (longest : Nat)
    (name name' : Text) :
    let fileName := FileName.documentName r.documentType name occasion.stamp
    let fileName' := FileName.documentName r.documentType name' occasion.stamp
    ((∀ (σ : Type) (w : Backstage longest σ) (s : σ),
        seen w desk occasion r name s = seen w desk occasion r name' s) ↔
      r.complaints ≠ [] ∨
        (FileName.fits FileTree.longestName fileName =
            FileName.fits FileTree.longestName fileName' ∧
          FileName.fits (min longest FileTree.longestName) fileName =
            FileName.fits (min longest FileTree.longestName) fileName')) ∧
    ∀ (σ : Type) (w : Backstage longest σ) (s : σ),
      (∃ g, ((desk.generate occasion r).run.run (w.answer desk name) s).1 = .ok g) →
      ((∃ g, ((desk.generate occasion r).run.run (w.answer desk name') s).1 = .ok g) ↔
        FileName.fits (min longest FileTree.longestName) fileName' = true) := by
  intro fileName fileName'
  refine ⟨⟨fun hseen => ?_, ?_⟩, ?_⟩
  · by_cases hr : r.complaints = []
    · exact .inr (Backstage.fits_of_seen hr (hseen Unit (Backstage.ready longest r.template) ()))
    · exact .inl hr
  · rintro (hr | ⟨hfit, hboth⟩) σ w s
    · rw [seen, seen, desk.generate_of_complaints occasion hr]
      rfl
    · exact seen_eq_of_fits w desk rfl rfl hfit hboth s
  · rintro σ w s ⟨g, hg⟩
    refine ⟨fun ⟨g', hg'⟩ => fits_of_ok w desk hg', fun hfits' => ?_⟩
    have hfits := fits_of_ok w desk hg
    have hshort := FileName.fits_mono (Nat.min_le_right _ _) hfits
    have hshort' := FileName.fits_mono (Nat.min_le_right _ _) hfits'
    have hseen : seen w desk occasion r name s = seen w desk occasion r name' s :=
      seen_eq_of_fits w desk rfl rfl (hshort.trans hshort'.symm) (hfits.trans hfits'.symm) s
    exact exists_ok_of_seen_eq w desk hseen hg

/-- A document of a template with a short name is made, and one of a template with a long name is
not. -/
theorem made_shortName_not_longName :
    let desk : Desk := { address := id }
    let note : GenerateRequest := { template := 1, documentType := .agreement }
    let result := fun name => ((desk.generate newYear note).run.run
      ({ records :=
          { templates := [{ id := 1, name, content := "Hello".toList }] } } : Rehearsal).answer
      none).1
    result "a".toList = .ok
      { fileName := "agreement-a-20240101-000000-n.pdf".toList
        url := "documents/agreement-a-20240101-000000-n.pdf".toList
        size := 141, documentType := .agreement } ∧
      result (List.replicate 300 'a') = .error (.compile (.source .nameTooLong)) := by
  decide +kernel

end Desk

/-! ## A folder as a store -/

namespace Job

variable {desk : Desk} {p : FolderPlace} {t : FileTree} {bytes : List UInt8}

theorem utf8Length_partName (job : Job) :
    Text.utf8Length job.partName = Text.utf8Length job.fileName + 1 := by
  rw [partName, fileName, FileName.documentName_eq, Text.utf8Length_append, Text.utf8Length_append]
  rfl

/-- **A folder stores documents whose names leave a byte to spare**, since each is written to a file
with a longer name first. -/
theorem fits_of_upload (job : Job)
    (h : ((p.upload (job.object desk) bytes).run FileTree.answer t).1 = .ok ()) :
    FileName.fits (FileTree.longestName - 1) job.fileName = true := by
  obtain ⟨path, t₀, t₁, hpath, -, hwrite, -⟩ := FolderPlace.of_run_upload h
  have hfolder : (Path.components desk.folderName).all FolderPlace.isOrdinary = true :=
    (desk.ordinary_documentObject_iff job.type job.name job.drawn).1
      (FolderPlace.path?_eq_some_iff.1 hpath).1
  have hplace := job.place_partialPath hfolder p t₀.here
  rw [← FolderPlace.locate_partialPath hpath] at hplace
  have hlength := FileTree.fits_of_write hwrite hplace
  rw [job.utf8Length_partName] at hlength
  exact decide_eq_true (Nat.le_sub_of_add_le hlength)

end Job

end Conveyance
