import Conveyance.Desk.Office
import Conveyance.Desk.Rehearsal
import Conveyance.Proofs.Desk.Protocol

/-!
# Proofs/Desk/Preview — a preview shows what is printed

Filling in a template asks the registry and nobody else, so what comes of it is a function of what
the registry holds (`Procedure.outcome`): **it is the same before a document is compiled and in a
preview**, whoever else answers and whatever else has happened in between.  A request whose document
reaches the compiler has been accepted and filled in; the previews of its template and of the
template's text then take the same steps with the same outcomes (`preview_shows_printed`).
-/

namespace Conveyance

/-! ## The registry -/

/-- Nothing follows a question to the registry that fails. -/
theorem Call.eq_nil_of_followed {e : Event} (h : e.call.asksRegistry) {after : List Event}
    (hafter : e.Followed after) : after = [] := by
  obtain ⟨c, reply⟩ := e
  cases c
  case upload => cases h
  all_goals exact hafter

/-- **The records come from a registry**: every question to it is answered by what it holds, and
nothing changes by asking.  All other calls are answered in any way. -/
def AnswersFrom {σ : Type} (registry : (c : Call) → c.Reply)
    (answer : (c : Call) → σ → c.Reply × σ) : Prop :=
  ∀ c : Call, c.asksRegistry → ∀ s, answer c s = (registry c, s)

/-- In an office the records come from its registry, on any bench. -/
theorem Office.answersFrom (o : Office) (b : Bench) :
    AnswersFrom (fun c => (o.answer c b).1) o.answer := by
  intro c hc s
  cases c
  case image | workDirectory | compile | read | upload | delete => cases hc
  all_goals rfl

/-- What the registry of a rehearsal holds. -/
def Rehearsal.held (r : Rehearsal) (c : Call) : c.Reply := (r.answer c none).1

theorem Rehearsal.answersFrom (r : Rehearsal) : AnswersFrom r.held r.answer := by
  intro c hc s
  cases c
  case image | workDirectory | compile | read | upload | delete => cases hc
  all_goals rfl

theorem Targets.asksRegistry_of_mem_gathering (t : Targets) (type : DocumentType) :
    ∀ c ∈ t.gathering type, c.asksRegistry := by
  intro c hc
  rw [gathering] at hc
  split at hc
  · exact (t.asksRegistry_of_mem_lookups type c hc).1
  · cases hc

/-! ## Requests -/

namespace GenerateRequest

/-- The preview of the template that a document is made of. -/
def preview (r : GenerateRequest) : PreviewRequest where
  template := some r.template
  documentType := r.documentType
  targets := r.targets

/-- The preview of a text in place of the template. -/
def previewOf (r : GenerateRequest) (content : Text) : PreviewRequest where
  content := some content
  documentType := r.documentType
  targets := r.targets

/-- A request that is accepted is accepted as a preview. -/
theorem complaints_preview {r : GenerateRequest} (hr : r.complaints = []) :
    r.preview.complaints = [] := by
  simp only [GenerateRequest.complaints, List.append_eq_nil_iff] at hr
  exact hr.1.1

end GenerateRequest

namespace Drafting

variable {α β σ : Type} {allowed : Call → Prop} {x : Drafting α} {f : α → Drafting β}

/-! ## The calls of an action -/

/-- **An action that makes no other calls** than those allowed, whatever it is answered. -/
def Makes (allowed : Call → Prop) (x : Drafting α) : Prop :=
  ∀ es r, x.Goes es r → ∀ e ∈ es, allowed e.call

theorem makes_pure (a : α) : (pure a : Drafting α).Makes allowed := by
  intro es r h
  obtain ⟨rfl, -⟩ := goes_pure h
  intro e he
  cases he

theorem makes_throw (fault : DocumentFault) : (throw fault : Drafting α).Makes allowed := by
  intro es r h
  obtain ⟨rfl, -⟩ := goes_throw h
  intro e he
  cases he

theorem Makes.bind (hx : x.Makes allowed) (hf : ∀ a, (f a).Makes allowed) :
    (x >>= f).Makes allowed := by
  intro es r h
  rcases goes_bind h with ⟨fault, hx', -⟩ | ⟨a, first, rest, hx', hf', rfl⟩
  · exact hx es _ hx'
  · exact List.forall_mem_append.2 ⟨hx first _ hx', hf a rest r hf'⟩

/-- An action makes its calls among any wider kind. -/
theorem Makes.mono {allowed' : Call → Prop} (hx : x.Makes allowed)
    (h : ∀ c, allowed c → allowed' c) : x.Makes allowed' :=
  fun es r hgoes e he => h _ (hx es r hgoes e he)

/-- An orderly action makes the calls of its courses, where nothing follows one that fails. -/
theorem Orderly.makes {course : List Call → Prop} (hx : Orderly x course fun _ => False)
    (hcourse : ∀ calls, course calls → ∀ c ∈ calls, allowed c)
    (hafter : ∀ e after, allowed e.call → Event.Followed e after → after = []) :
    x.Makes allowed := by
  intro es r h
  have hends := hx es r h
  rcases r with fault | a
  · obtain ⟨before, e, after, rfl, -, -, hfollowed, calls, hcalls, hinitial⟩ :=
      hends.resolve_right id
    have hmade : ∀ e' ∈ before ++ [e], allowed e'.call := fun e' he' =>
      hcourse calls hcalls _ (hinitial.subset (List.mem_map_of_mem he'))
    obtain rfl := hafter e after (hmade e (List.mem_append_right _ List.mem_cons_self)) hfollowed
    exact hmade
  · exact fun e he => hcourse _ hends.1 _ (List.mem_map_of_mem he)

theorem Makes.of_mem_calls (hx : x.Makes allowed) {answer : (c : Call) → σ → c.Reply × σ} {s : σ}
    {c : Call} (hc : c ∈ x.run.calls answer s) : allowed c := by
  rw [← Procedure.map_call_exchanges] at hc
  obtain ⟨e, he, rfl⟩ := List.mem_map.1 hc
  exact hx _ _ (Procedure.runs_exchanges answer x.run s) e he

section Bind

variable {answer : (c : Call) → σ → c.Reply × σ} {s s' : σ}

theorem run_bind_ok {a : α} (hx : x.run.run answer s = (.ok a, s')) :
    (x >>= f).run.run answer s = (f a).run.run answer s' := by
  change (x.run.bind (ExceptT.bindCont f)).run answer s = _
  rw [Procedure.run_bind, hx]
  rfl

theorem run_bind_error {fault : DocumentFault} (hx : x.run.run answer s = (.error fault, s')) :
    (x >>= f).run.run answer s = (.error fault, s') := by
  change (x.run.bind (ExceptT.bindCont f)).run answer s = _
  rw [Procedure.run_bind, hx]
  rfl

/-- **The calls of two actions one after the other**, when the first succeeds. -/
theorem calls_bind_ok {a : α} (hx : x.run.run answer s = (.ok a, s')) :
    (x >>= f).run.calls answer s = x.run.calls answer s ++ (f a).run.calls answer s' := by
  change (x.run.bind (ExceptT.bindCont f)).calls answer s = _
  rw [Procedure.calls_bind, hx]
  rfl

theorem calls_bind_error {fault : DocumentFault} (hx : x.run.run answer s = (.error fault, s')) :
    (x >>= f).run.calls answer s = x.run.calls answer s := by
  change (x.run.bind (ExceptT.bindCont f)).calls answer s = _
  rw [Procedure.calls_bind, hx]
  exact List.append_nil _

/-- **A call of two actions one after the other** is made by the first, or by the second after the
first has succeeded. -/
theorem mem_calls_bind {c : Call} (hc : c ∈ (x >>= f).run.calls answer s) :
    c ∈ x.run.calls answer s ∨
      ∃ a, (x.run.run answer s).1 = .ok a ∧ c ∈ (f a).run.calls answer (x.run.run answer s).2 := by
  rcases hx : x.run.run answer s with ⟨fault | a, s'⟩
  · rw [calls_bind_error hx] at hc
    exact .inl hc
  · rw [calls_bind_ok hx] at hc
    exact (List.mem_append.1 hc).imp_right fun hrest => ⟨a, rfl, hrest⟩

end Bind

/-- An action that makes none of the calls leaves them to the next. -/
theorem Makes.mem_calls_bind (hx : x.Makes allowed) {answer : (c : Call) → σ → c.Reply × σ}
    {s : σ} {c : Call} (hnot : ¬ allowed c) (hc : c ∈ (x >>= f).run.calls answer s) :
    ∃ a, (x.run.run answer s).1 = .ok a ∧ c ∈ (f a).run.calls answer (x.run.run answer s).2 :=
  (Drafting.mem_calls_bind hc).resolve_left fun hfirst => hnot (hx.of_mem_calls hfirst)

/-! ## What the registry holds decides -/

variable {registry : (c : Call) → c.Reply} {answer : (c : Call) → σ → c.Reply × σ}

/-- What comes of an action when every call is answered by what the registry holds. -/
def outcome (registry : (c : Call) → c.Reply) (x : Drafting α) : Except DocumentFault α :=
  x.run.outcome registry

/-- **An action that asks the registry only** ends as the registry decides, and changes nothing. -/
theorem Makes.run_eq (hx : x.Makes (·.asksRegistry)) (hanswer : AnswersFrom registry answer)
    (s : σ) : x.run.run answer s = (x.outcome registry, s) :=
  Procedure.run_eq_outcome x.run s fun c hc => hanswer c (hx.of_mem_calls hc)

/-- What is not asked of the registry is asked after the registry has been, where nothing has
changed. -/
theorem Makes.exists_outcome (hx : x.Makes (·.asksRegistry)) (hanswer : AnswersFrom registry answer)
    {s : σ} {c : Call} (hnot : ¬ c.asksRegistry) (hc : c ∈ (x >>= f).run.calls answer s) :
    ∃ a, x.outcome registry = .ok a ∧ c ∈ (f a).run.calls answer s := by
  obtain ⟨a, ha, hrest⟩ := hx.mem_calls_bind hnot hc
  rw [hx.run_eq hanswer] at ha hrest
  exact ⟨a, ha, hrest⟩

theorem outcome_ask (c : Call) (decide : c.Reply → Except DocumentFault α) :
    (ask c decide).outcome registry = decide (registry c) := rfl

theorem outcome_bind {a : α} (hx : x.outcome registry = .ok a) :
    (x >>= f).outcome registry = (f a).outcome registry := by
  have hbind : (x >>= f).outcome registry =
      (ExceptT.bindCont f (x.run.outcome registry)).outcome registry :=
    Procedure.outcome_bind x.run _
  rw [hbind, show x.run.outcome registry = .ok a from hx]
  rfl

/-! ## Steps -/

theorem makes_gathering (type : DocumentType) (t : Targets) (today : Date) :
    (assemble type t today).Makes (· ∈ t.gathering type) :=
  (orderly_gathering type t today).makes (fun _ hcalls _ hc => hcalls ▸ hc) fun _ _ he =>
    Call.eq_nil_of_followed (t.asksRegistry_of_mem_gathering type _ he)

/-- For a letterhead its company is asked for, and an image is read. -/
theorem makes_letterhead (r : GenerateRequest) :
    (letterhead r).Makes fun c =>
      (r.letterhead = .company ∧ ∃ n, r.headCompany = some n ∧ c = .company n) ∨
        ∃ path, c = .image path := by
  refine (orderly_letterhead r).makes (fun calls hcalls => ?_) fun e after he hafter => ?_
  · rw [GenerateRequest.HeadCalls] at hcalls
    split at hcalls
    next id hcompany hid =>
      rcases hcalls with rfl | ⟨path, rfl⟩
      · simp [hcompany, hid]
      · simp [hcompany, hid]
    next =>
      rw [hcalls]
      intro c hc
      cases hc
  · obtain ⟨c, reply⟩ := e
    obtain ⟨-, n, -, rfl⟩ | ⟨path, rfl⟩ := he
    · exact hafter
    · exact hafter

end Drafting

namespace Desk

open Drafting

variable {σ : Type} {registry : (c : Call) → c.Reply} {answer : (c : Call) → σ → c.Reply × σ}

theorem makes_accept (complaints : List Complaint) {allowed : Call → Prop} :
    (accept complaints).Makes allowed := by
  rw [accept]
  split
  · exact makes_pure ()
  · exact makes_throw _

theorem makes_template (id : Int) : (template id).Makes (· = .template id) := by
  refine (orderly_template id).makes (fun calls hcalls => ?_) fun e after he =>
    Call.eq_nil_of_followed (by rw [he]; rfl)
  rw [hcalls]
  exact List.forall_mem_singleton.2 rfl

theorem asks_template (id : Int) : (template id).Makes (·.asksRegistry) :=
  (makes_template id).mono fun _ hc => by rw [hc]; rfl

theorem makes_fillIn (desk : Desk) (today : Date) (type : DocumentType) (t : Targets)
    (content : Text) : (desk.fillIn today type t content).Makes (· ∈ t.gathering type) := by
  refine (makes_gathering type t today).bind fun ctx => ?_
  rcases renderTemplate? desk.format ctx content with _ | rendering
  · exact makes_throw .overflow
  · exact makes_pure rendering

theorem asks_fillIn (desk : Desk) (today : Date) (type : DocumentType) (t : Targets)
    (content : Text) : (desk.fillIn today type t content).Makes (·.asksRegistry) :=
  (desk.makes_fillIn today type t content).mono (t.asksRegistry_of_mem_gathering type)

theorem asks_previewContent (p : PreviewRequest) :
    (previewContent p).Makes (·.asksRegistry) := by
  rw [previewContent]
  rcases p.template with _ | id
  · exact makes_pure _
  · exact (asks_template id).bind fun found => makes_pure _

/-- **A preview asks the registry and nobody else.** -/
theorem asks_preview (desk : Desk) (today : Date) (p : PreviewRequest) :
    (desk.preview today p).Makes (·.asksRegistry) :=
  (makes_accept _).bind fun _ => (asks_previewContent p).bind fun _ => desk.asks_fillIn _ _ _ _

theorem makes_compile (document : TypstDocument) (name : Text) :
    (compile document name).Makes (· ∈ [.workDirectory, .compile name document, .read name]) := by
  refine (orderly_compile document name).makes (fun calls hcalls c hc => hcalls ▸ hc)
    fun e after he hafter => ?_
  obtain ⟨c, reply⟩ := e
  simp only [List.mem_cons, List.not_mem_nil, or_false] at he
  obtain rfl | rfl | rfl := he
  · exact hafter
  · exact hafter
  · exact hafter

theorem makes_share (object : Text) (bytes : List UInt8) :
    (share object bytes).Makes (· ∈ [.upload object bytes, .delete object]) := by
  intro es r h
  obtain _ | ⟨reply, h⟩ := h
  rcases reply with text | _
  · obtain _ | ⟨deleted, _ | _⟩ := h
    simp
  · obtain _ | _ := h
    simp

theorem eq_nil_of_outcome_accept {complaints : List Complaint} {u : Unit}
    (h : (accept complaints).outcome registry = .ok u) : complaints = [] := by
  rcases complaints with _ | ⟨c, cs⟩
  · rfl
  · cases h

theorem registry_of_outcome_template {id : Int} {found : Template}
    (h : (template id).outcome registry = .ok found) :
    registry (.template id) = (.ok (some found) : Except Text (Option Template)) := by
  rw [template_eq_ask, outcome_ask] at h
  split at h
  · obtain rfl := Except.ok.inj h
    assumption
  · cases h
  · cases h

/-! ## Previews -/

/-- **The desk shows a rendering** for a preview: wherever the records come from the registry the
preview succeeds with this rendering, and nothing is done but to ask the registry. -/
def Shows (desk : Desk) (registry : (c : Call) → c.Reply) (today : Date) (p : PreviewRequest)
    (rendering : Rendering) : Prop :=
  ∀ (τ : Type) (answer : (c : Call) → τ → c.Reply × τ), AnswersFrom registry answer → ∀ s,
    (desk.preview today p).run.run answer s = (.ok rendering, s) ∧
      ∀ c ∈ (desk.preview today p).run.calls answer s, c.asksRegistry

/-- A preview without complaints shows what its content is filled in to. -/
theorem shows_of_outcome {desk : Desk} {today : Date} {p : PreviewRequest} {content : Text}
    {rendering : Rendering} (hp : p.complaints = [])
    (hcontent : (previewContent p).outcome registry = .ok content)
    (hfill : (desk.fillIn today p.documentType p.targets content).outcome registry =
      .ok rendering) : desk.Shows registry today p rendering := by
  have haccept : (accept p.complaints).outcome registry = .ok () := by
    rw [hp]
    rfl
  have houtcome : (desk.preview today p).outcome registry = .ok rendering :=
    ((outcome_bind haccept).trans (outcome_bind hcontent)).trans hfill
  intro τ answer hanswer s
  have hmakes := desk.asks_preview today p
  exact ⟨by rw [hmakes.run_eq hanswer, houtcome], fun c hc => hmakes.of_mem_calls hc⟩

/-- **What is compiled is what is filled in and the letterhead that was loaded.** -/
theorem compiled_of_mem_calls {desk : Desk} {occasion : Occasion} {r : GenerateRequest}
    (hanswer : AnswersFrom registry answer) {s : σ} {name : Text} {document : TypstDocument}
    (h : .compile name document ∈ (desk.generate occasion r).run.calls answer s) :
    r.complaints = [] ∧ ∃ template letterhead rendering,
      (Desk.template r.template).outcome registry = .ok template ∧
      (desk.fillIn occasion.today r.documentType r.targets template.content).outcome registry =
        .ok rendering ∧
      ((Drafting.letterhead r).run.run answer s).1 = .ok letterhead ∧
      document = Typst.document desk.layout letterhead rendering.blocks := by
  have hasks : ¬ (Call.compile name document).asksRegistry := Bool.false_ne_true
  obtain ⟨_, haccept, h⟩ := (makes_accept _).exists_outcome hanswer hasks h
  obtain ⟨template, htemplate, h⟩ := (asks_template _).exists_outcome hanswer hasks h
  obtain ⟨rendering, hfill, h⟩ := (desk.asks_fillIn _ _ _ _).exists_outcome hanswer hasks h
  obtain ⟨letterhead, hhead, h⟩ := (makes_letterhead r).mem_calls_bind (by simp) h
  refine ⟨eq_nil_of_outcome_accept haccept, template, letterhead, rendering, htemplate, hfill,
    hhead, ?_⟩
  rcases mem_calls_bind h with h | ⟨bytes, -, h⟩
  · have hmem := (makes_compile _ _).of_mem_calls h
    simp only [List.mem_cons, reduceCtorEq, Call.compile.injEq, List.not_mem_nil, or_false,
      false_or] at hmem
    exact hmem.2
  · obtain ⟨_, -, h⟩ := (makes_share _ _).mem_calls_bind (by simp) h
    cases h

/-- **A preview shows what is printed.**  When the document of a request reaches the compiler, it is
the rendering of its blocks with the letterhead that was loaded; that same rendering is shown by the
preview of the template and by that of its text, whoever answers besides the registry. -/
theorem preview_shows_printed (desk : Desk) (occasion : Occasion) (r : GenerateRequest) {σ : Type}
    {registry : (c : Call) → c.Reply} {answer : (c : Call) → σ → c.Reply × σ}
    (hanswer : AnswersFrom registry answer) (s : σ) {name : Text} {document : TypstDocument}
    (h : .compile name document ∈ (desk.generate occasion r).run.calls answer s) :
    ∃ template letterhead rendering,
      registry (.template r.template) = (.ok (some template) : Except Text (Option Template)) ∧
      ((Drafting.letterhead r).run.run answer s).1 = .ok letterhead ∧
      document = Typst.document desk.layout letterhead rendering.blocks ∧
      desk.Shows registry occasion.today r.preview rendering ∧
      desk.Shows registry occasion.today (r.previewOf template.content) rendering := by
  obtain ⟨hr, template, letterhead, rendering, htemplate, hfill, hhead, hdocument⟩ :=
    compiled_of_mem_calls hanswer h
  refine ⟨template, letterhead, rendering, registry_of_outcome_template htemplate, hhead,
    hdocument, ?_, ?_⟩
  · exact shows_of_outcome (GenerateRequest.complaints_preview hr) (outcome_bind htemplate) hfill
  · exact shows_of_outcome rfl rfl hfill

/-- One client, one template and a company whose letterhead is printed. -/
def oneClient : Rehearsal where
  records :=
    { templates :=
        [{ id := 1, name := "Note".toList, content := "\x7b\x7bCLIENT_NAME\x7d\x7d".toList }],
      clients := [{ id := 7, name := "Asha".toList }],
      companies := [{ id := 2, name := "Kalyan Estates".toList }] }

/-- A note to the client under the letterhead of the company. -/
def note : GenerateRequest where
  template := 1
  documentType := .agreement
  targets := { client := some 7 }
  letterhead := .company
  letterheadCompany := some 2

/-- The first moment of a year. -/
def newYear : Occasion where
  today := ⟨2024, 1, 1, by decide, by decide⟩
  stamp := ⟨⟨⟨2024, 1, 1, by decide, by decide⟩, 0, 0, 0, 0⟩, "n".toList⟩

/-- The note is compiled as one paragraph under the letterhead. -/
theorem preview_shows_printed_note :
    let desk : Desk := { address := id }
    let document := Typst.document {} (.lines { id := 2, name := "Kalyan Estates".toList })
      [{ kind := .paragraph, alignment := .left, text := "Asha".toList }]
    .compile "agreement-note-20240101-000000-n.pdf".toList document ∈
        (desk.generate newYear note).run.calls oneClient.answer none ∧
      ∃ template letterhead rendering,
        oneClient.held (.template 1) = (.ok (some template) : Except Text (Option Template)) ∧
        ((Drafting.letterhead note).run.run oneClient.answer none).1 = .ok letterhead ∧
        document = Typst.document {} letterhead rendering.blocks ∧
        desk.Shows oneClient.held newYear.today note.preview rendering ∧
        desk.Shows oneClient.held newYear.today (note.previewOf template.content) rendering := by
  intro desk document
  have h : .compile "agreement-note-20240101-000000-n.pdf".toList document ∈
      (desk.generate newYear note).run.calls oneClient.answer none := by decide +kernel
  exact ⟨h, preview_shows_printed desk newYear note oneClient.answersFrom none h⟩

end Desk

end Conveyance
