import Conveyance.Proofs.Desk.Letterhead
import Conveyance.Proofs.Typst.Page

/-!
# Proofs/Desk/PageHeader — what a letterhead changes

What is drafted before the letterhead is asked for (`Desk.drafted`) does not depend on it, and what is
done with the document afterwards depends on it only through what stands in the document and in its
PDF (`Drafting.Alike`).  Two runs of a request in which the registry and the image say different things
about the letterhead, and calls that look alike get replies that look alike otherwise, therefore **end
alike, and their documents differ in the first line only** (`letterheads_differ_in_header`).
-/

namespace Conveyance

/-! ## Contents set aside -/

/-- A call without the document and the bytes that it is about. -/
def Call.bare : Call → Call
  | .compile name _ => .compile name ⟨[], []⟩
  | .upload object _ => .upload object []
  | c => c

/-- **What is seen of a call and its reply** by one who looks neither into documents nor into files. -/
def Event.bare : Event → Event
  | ⟨.compile name _, reply⟩ => ⟨.compile name ⟨[], []⟩, reply⟩
  | ⟨.read name, reply⟩ => ⟨.read name, reply.map fun _ => []⟩
  | ⟨.upload object _, reply⟩ => ⟨.upload object [], reply⟩
  | e => e

theorem Event.call_bare (e : Event) : e.bare.call = e.call.bare := by
  rcases e with ⟨c, reply⟩
  cases c <;> rfl

/-- The size of a PDF that was read. -/
def Event.pdfSize? : Event → Option Nat
  | ⟨.read _, .ok bytes⟩ => some bytes.length
  | _ => none

/-- **The sizes of the PDFs that were read.** -/
def pdfSizes (es : List Event) : List Nat := es.filterMap Event.pdfSize?

/-- A document that has been shared, but for its size. -/
def Generated.sizeless (g : Generated) : Generated := { g with size := 0 }

/-- **Two ends alike**: results that belong together, or the same fault. -/
def EndsAlike {ε α β : Type} (R : α → β → Prop) : Except ε α → Except ε β → Prop
  | .ok a, .ok b => R a b
  | .error fault, .error fault' => fault = fault'
  | _, _ => False

theorem EndsAlike.map_eq {ε α β γ : Type} {f : α → γ} {g : β → γ} {r : Except ε α} {r' : Except ε β}
    (h : EndsAlike (fun a b => f a = g b) r r') : r.map f = r'.map g := by
  rcases r with fault | a <;> rcases r' with fault' | b
  · exact congrArg Except.error h
  · cases h
  · cases h
  · exact congrArg Except.ok h

namespace Drafting

variable {α β γ δ : Type}

/-- **Courses of action that differ in contents only**: each makes the calls of the other, but for what
these are about, and after replies that look alike they go on alike. -/
inductive CoursesAlike (R : α → β → Prop) : Errand α → Errand β → Prop
  | done {a : α} {b : β} (h : R a b) : CoursesAlike R (.done a) (.done b)
  | call {c c' : Call} (hc : c.bare = c'.bare) {next : c.Reply → Errand α} {next' : c'.Reply → Errand β}
      (h : ∀ reply reply', Event.bare ⟨c, reply⟩ = Event.bare ⟨c', reply'⟩ →
        CoursesAlike R (next reply) (next' reply')) :
      CoursesAlike R (.call c next) (.call c' next')

theorem CoursesAlike.bind {R : α → β → Prop} {S : γ → δ → Prop} {p : Errand α} {p' : Errand β}
    (hp : CoursesAlike R p p') {f : α → Errand γ} {f' : β → Errand δ}
    (hf : ∀ a b, R a b → CoursesAlike S (f a) (f' b)) : CoursesAlike S (p.bind f) (p'.bind f') := by
  induction hp with
  | done h => exact hf _ _ h
  | call hc _ ih => exact .call hc ih

/-- **Courses that differ in contents only run alike** as long as equal calls get equal replies, as far
as is seen of them. -/
theorem CoursesAlike.of_runs {R : α → β → Prop} {p : Errand α} {p' : Errand β}
    (h : CoursesAlike R p p') {es es' : List Event} {a : α} {b : β} (hp : p.Runs es a)
    (hp' : p'.Runs es' b) (hagree : Procedure.Agree (es.map Event.bare) (es'.map Event.bare)) :
    es.map Event.bare = es'.map Event.bare ∧ R a b := by
  induction h generalizing es es' with
  | done h =>
    obtain _ | _ := hp
    obtain _ | _ := hp'
    exact ⟨rfl, h⟩
  | @call c c' hc _ _ _ ih =>
    obtain _ | ⟨reply, hnext⟩ := hp
    obtain _ | ⟨reply', hnext'⟩ := hp'
    have hbare : Event.bare ⟨c, reply⟩ = Event.bare ⟨c', reply'⟩ := hagree.head <| by
      rw [Event.call_bare, Event.call_bare, hc]
    obtain ⟨hes, hR⟩ := ih reply reply' hbare hnext hnext' hagree.tail
    rw [List.map_cons, List.map_cons, hbare, hes]
    exact ⟨rfl, hR⟩

/-- Actions that differ in contents only. -/
def Alike (R : α → β → Prop) (x : Drafting α) (x' : Drafting β) : Prop :=
  CoursesAlike (EndsAlike R) x.run x'.run

theorem Alike.bind {R : α → β → Prop} {S : γ → δ → Prop} {x : Drafting α} {x' : Drafting β}
    (hx : Alike R x x') {f : α → Drafting γ} {f' : β → Drafting δ}
    (hf : ∀ a b, R a b → Alike S (f a) (f' b)) : Alike S (x >>= f) (x' >>= f') := by
  refine CoursesAlike.bind hx fun r r' hr => ?_
  rcases r with fault | a <;> rcases r' with fault' | b
  · exact .done hr
  · cases hr
  · cases hr
  · exact hf a b hr

theorem alike_ask {R : α → β → Prop} {c c' : Call} (hc : c.bare = c'.bare)
    {decide : c.Reply → Except DocumentFault α} {decide' : c'.Reply → Except DocumentFault β}
    (h : ∀ reply reply', Event.bare ⟨c, reply⟩ = Event.bare ⟨c', reply'⟩ →
      EndsAlike R (decide reply) (decide' reply')) : Alike R (ask c decide) (ask c' decide') :=
  .call hc fun reply reply' hbare => .done (h reply reply' hbare)

/-! ## Counting calls -/

/-- **An action that makes so many calls** if it succeeds, and otherwise no more. -/
def Takes (x : Drafting α) (n : Nat) : Prop :=
  ∀ es r, x.Goes es r → es.length ≤ n ∧ ∀ a, r = .ok a → es.length = n

theorem takes_pure (a : α) : (pure a : Drafting α).Takes 0 := by
  intro es r h
  obtain ⟨rfl, -⟩ := goes_pure h
  exact ⟨Nat.le_refl 0, fun _ _ => rfl⟩

theorem takes_throw (fault : DocumentFault) (n : Nat) : (throw fault : Drafting α).Takes n := by
  intro es r h
  obtain ⟨rfl, rfl⟩ := goes_throw h
  exact ⟨Nat.zero_le n, nofun⟩

theorem Takes.bind {x : Drafting α} {f : α → Drafting β} {m n : Nat} (hx : x.Takes m)
    (hf : ∀ a, (f a).Takes n) : (x >>= f).Takes (m + n) := by
  intro es r h
  rcases goes_bind h with ⟨fault, hx', rfl⟩ | ⟨a, first, rest, hx', hf', rfl⟩
  · exact ⟨Nat.le_trans (hx es _ hx').1 (Nat.le_add_right m n), nofun⟩
  · obtain ⟨hle, heq⟩ := hf a rest r hf'
    rw [List.length_append, (hx first _ hx').2 a rfl]
    exact ⟨Nat.add_le_add_left hle m, fun b hb => by rw [heq b hb]⟩

/-- Questions to the registry are as many as there are on their course. -/
theorem Orderly.takes {x : Drafting α} {calls : List Call} (hx : Orderly x (· = calls) fun _ => False)
    (hcalls : ∀ c ∈ calls, c.asksRegistry) : x.Takes calls.length := by
  intro es r h
  have hends := hx es r h
  rcases r with fault | a
  · obtain ⟨before, e, after, rfl, -, -, hfollowed, calls', rfl, hinitial⟩ := hends.resolve_right id
    have he : e.call ∈ calls' := hinitial.subset (by simp)
    obtain rfl := Call.eq_nil_of_followed (hcalls _ he) hfollowed
    rw [← List.length_map (·.call)]
    exact ⟨hinitial.length_le, nofun⟩
  · refine ⟨?_, fun _ _ => ?_⟩ <;> rw [← hends.1, List.length_map]

end Drafting

/-! ## Requests -/

namespace GenerateRequest

variable (r : GenerateRequest)

/-- The number of calls for the template and the records. -/
def drafting : Nat := 1 + (r.targets.gathering r.documentType).length

/-- **What is seen of the printing by one who looks past the letterhead**: the calls after those for the
template and the records, but for those that are for the letterhead, with the contents set aside. -/
def aside (es : List Event) : List Event :=
  ((es.drop r.drafting).filter (!·.call.isForHead)).map Event.bare

/-- The registry has told of the company of the letterhead, or that there is none. -/
def HeadTold (es : List Event) : Prop :=
  ∀ (n : Int) (text : Text), ⟨.company n, Except.error text⟩ ∉ es.drop r.drafting

theorem headTold_of_clean {es : List Event} (h : Clean es) : r.HeadTold es :=
  fun _ _ hmem => nomatch h _ (List.mem_of_mem_drop hmem)

end GenerateRequest

/-- **Sources that differ in the page set-up only**: the set-up is the first line, and the lines from
the size of the type on are the same. -/
def Typst.DifferInHeader (source source' : Text) : Prop :=
  ∃ page page' below : Text, source = page ++ '\n' :: below ∧ source' = page' ++ '\n' :: below ∧
    ('\n' ∉ page ∧ "#set page(".toList <+: page) ∧ ('\n' ∉ page' ∧ "#set page(".toList <+: page') ∧
    "#set text(".toList <+: below

theorem Typst.differInHeader_document (layout : Layout) (letterhead letterhead' : Letterhead)
    (blocks : List Block) : DifferInHeader (document layout letterhead blocks).source
      (document layout letterhead' blocks).source := by
  have hpage : ∀ head, "#set page(".toList <+: pageLine layout head := fun head =>
    List.prefix_iff_eq_take.2 rfl
  exact ⟨_, _, _, source_document layout letterhead blocks, source_document layout letterhead' blocks,
    ⟨newline_notMem_pageLine layout letterhead, hpage letterhead⟩,
    ⟨newline_notMem_pageLine layout letterhead', hpage letterhead'⟩,
    List.prefix_iff_eq_take.2 rfl⟩

namespace Drafting

/-- Where only the registry is asked, nothing is compiled. -/
theorem Makes.compile_notMem {α : Type} {x : Drafting α} (hx : x.Makes (·.asksRegistry))
    {es : List Event} {result : Except DocumentFault α} (h : x.Goes es result) {name : Text}
    {document : TypstDocument} : .compile name document ∉ es.map (·.call) := by
  intro hmem
  obtain ⟨e, he, hcall⟩ := List.mem_map.1 hmem
  have hasks := hx es result h e he
  rw [hcall] at hasks
  cases hasks

/-- A letterhead is asked for by its own calls. -/
theorem forHead_of_goes_letterhead {r : GenerateRequest} {es : List Event}
    {result : Except DocumentFault Letterhead} (h : (letterhead r).Goes es result) :
    ∀ e ∈ es, e.call.isForHead := fun e he => by
  obtain ⟨-, n, -, hcall⟩ | ⟨path, hcall⟩ := makes_letterhead r es result h e he
  all_goals rw [hcall]; rfl

/-- **A letterhead is there** for every reply but a failing registry. -/
theorem exists_letterhead {r : GenerateRequest} {es : List Event}
    {result : Except DocumentFault Letterhead} (h : (letterhead r).Goes es result)
    (htold : ∀ (n : Int) (text : Text), ⟨.company n, Except.error text⟩ ∉ es) :
    ∃ head, result = .ok head := by
  have horderly : Orderly (letterhead r) r.HeadCalls fun _ => False := orderly_letterhead r
  have hends := horderly es result h
  rcases result with fault | head
  · obtain ⟨before, ⟨c, reply⟩, after, rfl, -, hfault, -⟩ := hends.resolve_right id
    have he : (⟨c, reply⟩ : Event) ∈ before ++ ⟨c, reply⟩ :: after :=
      List.mem_append_right _ List.mem_cons_self
    obtain ⟨-, n, -, hcall⟩ | ⟨path, hcall⟩ := makes_letterhead r _ _ h _ he
    · obtain rfl : c = .company n := hcall
      rcases reply with text | found
      · exact absurd he (htold n text)
      · cases hfault
    · obtain rfl : c = .image path := hcall
      cases hfault
  · exact ⟨head, rfl⟩

end Drafting

namespace Desk

open Drafting

variable (desk : Desk) (occasion : Occasion) (r : GenerateRequest)

/-- What is drafted before the letterhead is asked for: the template, and the text filled in. -/
def drafted (today : Date) (r : GenerateRequest) : Drafting (Template × Rendering) := do
  accept r.complaints
  let template ← template r.template
  let rendering ← desk.fillIn today r.documentType r.targets template.content
  return (template, rendering)

/-- What is done with a document: it is compiled and shared. -/
def printed (draft : Template × Rendering) (letterhead : Letterhead) : Drafting Generated := do
  let fileName := FileName.documentName r.documentType draft.1.name occasion.stamp
  let bytes ← compile (Typst.document desk.layout letterhead draft.2.blocks) fileName
  share (desk.objectName fileName) bytes
  return { fileName, url := desk.address (desk.objectName fileName), size := bytes.length,
           documentType := r.documentType }

/-- **A request is drafted, headed and printed.** -/
theorem generate_eq : desk.generate occasion r =
    desk.drafted occasion.today r >>= fun draft =>
      letterhead r >>= fun head => desk.printed occasion r draft head := by
  simp only [generate, drafted, printed, bind_assoc, pure_bind]

theorem asks_drafted (today : Date) : (desk.drafted today r).Makes (·.asksRegistry) :=
  (makes_accept _).bind fun _ => (asks_template _).bind fun _ =>
    (desk.asks_fillIn _ _ _ _).bind fun _ => makes_pure _

theorem takes_drafted (today : Date) : (desk.drafted today r).Takes r.drafting := by
  have haccept : (accept r.complaints).Takes 0 := by
    rw [accept]
    split
    · exact takes_pure ()
    · exact takes_throw _ 0
  have htemplate : (template r.template).Takes 1 :=
    (orderly_template r.template).takes (List.forall_mem_singleton.2 rfl)
  have hfillIn : ∀ content, (desk.fillIn today r.documentType r.targets content).Takes
      (r.targets.gathering r.documentType).length := fun content => by
    refine ((orderly_gathering r.documentType r.targets today).takes
      (r.targets.asksRegistry_of_mem_gathering r.documentType)).bind (n := 0) fun ctx => ?_
    rcases renderTemplate? desk.format ctx content with _ | rendering
    · exact takes_throw _ 0
    · exact takes_pure rendering
  have h := haccept.bind fun _ => htemplate.bind fun template =>
    (hfillIn template.content).bind fun rendering => takes_pure (template, rendering)
  rwa [Nat.zero_add, Nat.add_zero] at h

/-- Documents of one name are compiled alike. -/
theorem alike_compile (document document' : TypstDocument) (name : Text) :
    Alike (fun _ _ => True) (compile document name) (compile document' name) := by
  have hdirectory : Alike (fun _ _ => True) (ask .workDirectory (·.mapError .workDirectory))
      (ask .workDirectory (·.mapError .workDirectory)) := by
    refine alike_ask rfl ?_
    rintro (fault | _) (fault' | _) ⟨⟩ <;> trivial
  have hcompile : Alike (fun _ _ => True) (ask (.compile name document) (·.mapError .compile))
      (ask (.compile name document') (·.mapError .compile)) := by
    have hbare : (Call.compile name document).bare = (Call.compile name document').bare := rfl
    refine alike_ask hbare ?_
    rintro (fault | _) (fault' | _) ⟨⟩ <;> trivial
  have hread : Alike (fun _ _ => True) (ask (.read name) (·.mapError .read))
      (ask (.read name) (·.mapError .read)) := by
    refine alike_ask rfl ?_
    rintro (fault | bytes) (fault' | bytes') heq
    · cases heq
      rfl
    · cases heq
    · cases heq
    · trivial
  exact hdirectory.bind fun _ _ _ => hcompile.bind fun _ _ _ => hread

/-- Objects of one name are shared alike. -/
theorem alike_share (object : Text) (bytes bytes' : List UInt8) :
    Alike (fun _ _ => True) (share object bytes) (share object bytes') := by
  have hbare : (Call.upload object bytes).bare = (Call.upload object bytes').bare := rfl
  refine CoursesAlike.call hbare ?_
  rintro (text | _) (text' | _) ⟨⟩
  · exact .call rfl fun reply reply' _ => .done rfl
  · exact .done trivial

/-- **Whatever the letterhead, a document is printed alike**, but for its size. -/
theorem alike_printed (draft : Template × Rendering) (head head' : Letterhead) :
    Alike (fun g g' => g.sizeless = g'.sizeless) (desk.printed occasion r draft head)
      (desk.printed occasion r draft head') :=
  (alike_compile _ _ _).bind fun _ _ _ => (alike_share _ _ _).bind fun _ _ _ => .done rfl

variable {desk occasion r} {es es' : List Event} {result result' : Except DocumentFault Generated}

/-- The size of a printed document is that of the PDF that was read. -/
theorem size_mem_pdfSizes {draft : Template × Rendering} {head : Letterhead} {g : Generated}
    (h : (desk.printed occasion r draft head).Goes es (.ok g)) : g.size ∈ pdfSizes es := by
  obtain ⟨bytes, first, rest, hcompile, hshare, rfl⟩ := goes_bind_ok h
  obtain ⟨-, _, shared, -, hreturn, -⟩ := goes_bind_ok hshare
  obtain rfl := Except.ok.inj (goes_pure hreturn).2
  obtain ⟨-, _, later, -, hlater, rfl⟩ := goes_bind_ok hcompile
  obtain ⟨-, _, read, -, hread, rfl⟩ := goes_bind_ok hlater
  obtain ⟨reply, rfl, hreply⟩ := goes_ask hread
  rcases reply with fault | bytes'
  · cases hreply
  · obtain rfl := Except.ok.inj hreply
    simp [pdfSizes, Event.pdfSize?]

/-- **A request ends while it is drafted**, or it goes on with the draft to its letterhead and to the
printing. -/
theorem cases_of_goes_generate (h : (desk.generate occasion r).Goes es result) :
    (∃ fault, (desk.drafted occasion.today r).Goes (es.take r.drafting) (.error fault) ∧
      result = .error fault ∧ es.drop r.drafting = []) ∨
    ∃ draft, (desk.drafted occasion.today r).Goes (es.take r.drafting) (.ok draft) ∧
      (letterhead r >>= desk.printed occasion r draft).Goes (es.drop r.drafting) result := by
  rw [generate_eq] at h
  have htakes := desk.takes_drafted r occasion.today
  rcases goes_bind h with ⟨fault, hdrafted, rfl⟩ | ⟨draft, first, later, hdrafted, hlater, rfl⟩
  · have hlength := (htakes es _ hdrafted).1
    rw [List.take_of_length_le hlength, List.drop_of_length_le hlength]
    exact .inl ⟨fault, hdrafted, rfl, rfl⟩
  · have hlength : first.length = r.drafting := (htakes first _ hdrafted).2 draft rfl
    rw [← hlength, List.take_left, List.drop_left]
    exact .inr ⟨draft, hdrafted, hlater⟩

/-- **What is compiled is the draft under a letterhead.** -/
theorem exists_draft_of_compile (h : (desk.generate occasion r).Goes es result) {name : Text}
    {document : TypstDocument} (hcompile : .compile name document ∈ es.map (·.call)) :
    ∃ draft head, (desk.drafted occasion.today r).Goes (es.take r.drafting) (.ok draft) ∧
      name = FileName.documentName r.documentType draft.1.name occasion.stamp ∧
      document = Typst.document desk.layout head draft.2.blocks := by
  obtain ⟨e, he, hcall⟩ := List.mem_map.1 hcompile
  rw [← List.take_append_drop r.drafting es, List.mem_append] at he
  have hasks := desk.asks_drafted r occasion.today
  rcases cases_of_goes_generate h with ⟨fault, hdrafted, -, hdrop⟩ | ⟨draft, hdrafted, hlater⟩
  · rw [hdrop] at he
    exact absurd (List.mem_map.2 ⟨e, he.resolve_right nofun, hcall⟩) (hasks.compile_notMem hdrafted)
  · have hdrop := he.resolve_left fun htake =>
      hasks.compile_notMem hdrafted (List.mem_map.2 ⟨e, htake, hcall⟩)
    have hnotHead : ¬e.call.isForHead := by
      rw [hcall]
      nofun
    rcases goes_bind hlater with ⟨fault, hasked, -⟩ | ⟨head, asked, rest, hasked, hrest, heq⟩
    · exact absurd (forHead_of_goes_letterhead hasked e hdrop) hnotHead
    · rw [heq, List.mem_append] at hdrop
      have hmem := hdrop.resolve_left fun hmem =>
        hnotHead (forHead_of_goes_letterhead hasked e hmem)
      exact ⟨draft, head, hdrafted, ((of_goes_print hrest).2 e hmem).2 name document hcall⟩

/-- Where the registry tells of the company of the letterhead, **the draft is printed under some
letterhead**, and that is all that is seen by one who looks past it. -/
theorem exists_printed {draft : Template × Rendering} (htold : r.HeadTold es)
    (h : (letterhead r >>= desk.printed occasion r draft).Goes (es.drop r.drafting) result) :
    ∃ head rest, (desk.printed occasion r draft head).Goes rest result ∧ rest ⊆ es ∧
      r.aside es = rest.map Event.bare := by
  rcases goes_bind h with ⟨fault, hasked, -⟩ | ⟨head, asked, rest, hasked, hrest, heq⟩
  · obtain ⟨head, hhead⟩ := exists_letterhead hasked htold
    cases hhead
  · have hnone : asked.filter (!·.call.isForHead) = [] :=
      List.filter_eq_nil_iff.2 fun e he => by simp [forHead_of_goes_letterhead hasked e he]
    have hall : rest.filter (!·.call.isForHead) = rest :=
      List.filter_eq_self.2 fun e he => by simp [((of_goes_print hrest).2 e he).1]
    refine ⟨head, rest, hrest, fun e he => List.mem_of_mem_drop (i := r.drafting) ?_, ?_⟩
    · rw [heq]
      exact List.mem_append_right _ he
    · rw [GenerateRequest.aside, heq, List.filter_append, hnone, hall, List.nil_append]

/-- Outcomes that are the same but for the size **are the same where the PDFs have one size**. -/
theorem eq_of_pdfSizes {draft draft' : Template × Rendering} {head head' : Letterhead}
    (h : (desk.printed occasion r draft head).Goes es result)
    (h' : (desk.printed occasion r draft' head').Goes es' result')
    (heq : result.map Generated.sizeless = result'.map Generated.sizeless)
    (hsizes : ∀ n ∈ pdfSizes es, ∀ n' ∈ pdfSizes es', n = n') : result = result' := by
  rcases result with fault | g <;> rcases result' with fault' | g'
  · exact congrArg Except.error (Except.error.inj heq)
  · cases heq
  · cases heq
  · obtain ⟨hname, hurl, -, htype⟩ := Generated.mk.inj (Except.ok.inj heq)
    have hsize := hsizes _ (size_mem_pdfSizes h) _ (size_mem_pdfSizes h')
    rcases g with ⟨name, url, size, type⟩
    rcases g' with ⟨name', url', size', type'⟩
    dsimp only at *
    rw [hname, hurl, htype, hsize]

/-- **Trouble with the letterhead changes the page header only.**  Two worlds are compared that answer
equal calls for the template and the records alike.  The two documents of a request have one file name,
and from the size of the type on, which starts the second line, one source.  Where the registries both
tell of the company of the letterhead, and what comes of compiling, reading, uploading and deleting is
the same in both worlds whatever the contents, the request makes the same calls but for those for the
letterhead and has the same outcome, but for the size of the PDF; where that is one, the outcomes are
equal. -/
theorem letterheads_differ_in_header (desk : Desk) (occasion : Occasion) (r : GenerateRequest)
    {σ τ : Type} (answer : (c : Call) → σ → c.Reply × σ) (s : σ)
    (answer' : (c : Call) → τ → c.Reply × τ) (t : τ) :
    let es := (desk.generate occasion r).run.exchanges answer s
    let es' := (desk.generate occasion r).run.exchanges answer' t
    let result := ((desk.generate occasion r).run.run answer s).1
    let result' := ((desk.generate occasion r).run.run answer' t).1
    Procedure.Agree (es.take r.drafting) (es'.take r.drafting) →
    (∀ name document name' document', .compile name document ∈ es.map (·.call) →
        .compile name' document' ∈ es'.map (·.call) →
        name = name' ∧ Typst.DifferInHeader document.source document'.source) ∧
      (Procedure.Agree (r.aside es) (r.aside es') → r.HeadTold es → r.HeadTold es' →
        es.take r.drafting = es'.take r.drafting ∧ r.aside es = r.aside es' ∧
        result.map Generated.sizeless = result'.map Generated.sizeless ∧
        ((∀ n ∈ pdfSizes es, ∀ n' ∈ pdfSizes es', n = n') → result = result')) := by
  intro es es' result result' hagree
  have hgoes : (desk.generate occasion r).Goes es result := Procedure.runs_exchanges answer _ s
  have hgoes' : (desk.generate occasion r).Goes es' result' := Procedure.runs_exchanges answer' _ t
  refine ⟨fun name document name' document' hcompile hcompile' => ?_, fun haside htold htold' => ?_⟩
  · obtain ⟨draft, head, hdrafted, rfl, rfl⟩ := exists_draft_of_compile hgoes hcompile
    obtain ⟨draft', head', hdrafted', rfl, rfl⟩ := exists_draft_of_compile hgoes' hcompile'
    obtain rfl := Except.ok.inj (hdrafted.eq_of_agree hdrafted' hagree).2
    exact ⟨rfl, Typst.differInHeader_document desk.layout head head' draft.2.blocks⟩
  · rcases cases_of_goes_generate hgoes with ⟨fault, hdrafted, hresult, hdrop⟩ | ⟨draft, hdrafted, hlater⟩ <;>
      rcases cases_of_goes_generate hgoes' with
        ⟨fault', hdrafted', hresult', hdrop'⟩ | ⟨draft', hdrafted', hlater'⟩ <;>
      obtain ⟨hsame, hdraft⟩ := hdrafted.eq_of_agree hdrafted' hagree
    · -- both end while they are drafted
      obtain rfl := Except.error.inj hdraft
      rw [hresult, hresult']
      refine ⟨hsame, ?_, rfl, fun _ => rfl⟩
      rw [GenerateRequest.aside, GenerateRequest.aside, hdrop, hdrop']
    -- one cannot end there while the other goes on
    · cases hdraft
    · cases hdraft
    · -- both are drafted alike, and what follows their letterheads is alike
      obtain rfl := Except.ok.inj hdraft
      obtain ⟨head, rest, hrest, hsub, hseen⟩ := exists_printed htold hlater
      obtain ⟨head', rest', hrest', hsub', hseen'⟩ := exists_printed htold' hlater'
      rw [hseen, hseen'] at haside
      obtain ⟨heq, halike⟩ := (desk.alike_printed occasion r draft head head').of_runs hrest hrest' haside
      refine ⟨hsame, by rw [hseen, hseen', heq], halike.map_eq, fun hsizes => ?_⟩
      exact eq_of_pdfSizes hrest hrest' halike.map_eq fun n hn n' hn' =>
        hsizes n (List.filterMap_subset _ hsub hn) n' (List.filterMap_subset _ hsub' hn')

/-- One client and one template, and no company. -/
def headless : Rehearsal := { oneClient with records := { oneClient.records with companies := [] } }

/-- Another company, whose paper is an image of another kind. -/
def onOtherPaper : Rehearsal where
  records :=
    { oneClient.records with
      companies := [{ id := 2, name := "Shree Homes".toList,
                      letterheadPath := some "/paper/shree.png".toList }] }
  files :=
    { entries := [(["paper".toList], .directory),
        (["paper".toList, "shree.png".toList], .file [137, 80] false)] }

/-- The note is shared under the image of its letterhead or without any letterhead, and its two sources
are not the same; nor are they under another image, where the PDFs have one size. -/
theorem letterheads_differ_in_header_note :
    let desk : Desk := { address := id }
    let errand := (desk.generate newYear note).run
    let es := errand.exchanges onPaper.answer none
    let es' := errand.exchanges headless.answer none
    let es₂ := errand.exchanges onOtherPaper.answer none
    let name := "agreement-note-20240101-000000-n.pdf".toList
    let document := fun letterhead => Typst.document {} letterhead
      [{ kind := .paragraph, alignment := .left, text := "Asha".toList }]
    let paper := document (.image { name := "letterhead.jpg".toList, bytes := [255, 216] })
    let other := document (.image { name := "letterhead.png".toList, bytes := [137, 80] })
    (.compile name paper ∈ es.map (·.call) ∧ .compile name (document .blank) ∈ es'.map (·.call) ∧
        paper.source ≠ (document .blank).source ∧
        Typst.DifferInHeader paper.source (document .blank).source) ∧
      (Procedure.Agree (note.aside es) (note.aside es') ∧ note.HeadTold es ∧ note.HeadTold es' ∧
        (errand.run onPaper.answer none).1.isOk ∧
        (errand.run onPaper.answer none).1.map Generated.sizeless =
          (errand.run headless.answer none).1.map Generated.sizeless) ∧
      .compile name other ∈ es₂.map (·.call) ∧ paper.source ≠ other.source ∧
        (errand.run onPaper.answer none).1 = (errand.run onOtherPaper.answer none).1 := by
  intro desk errand es es' es₂ name document paper other
  have hclean : Clean es ∧ Clean es' ∧ Clean es₂ := by decide +kernel
  have hagree : Procedure.Agree (es.take note.drafting) (es'.take note.drafting) := by decide +kernel
  have hcompile : .compile name paper ∈ es.map (·.call) := by decide +kernel
  have hcompile' : .compile name (document .blank) ∈ es'.map (·.call) := by decide +kernel
  obtain ⟨hsource, houtcome⟩ := letterheads_differ_in_header desk newYear note
    onPaper.answer none headless.answer none hagree
  have haside : Procedure.Agree (note.aside es) (note.aside es') := by decide +kernel
  have htold := note.headTold_of_clean hclean.1
  have htold' := note.headTold_of_clean hclean.2.1
  obtain ⟨-, -, hresult, -⟩ := houtcome haside htold htold'
  have hagree₂ : Procedure.Agree (es.take note.drafting) (es₂.take note.drafting) := by decide +kernel
  obtain ⟨-, houtcome₂⟩ := letterheads_differ_in_header desk newYear note
    onPaper.answer none onOtherPaper.answer none hagree₂
  have haside₂ : Procedure.Agree (note.aside es) (note.aside es₂) := by decide +kernel
  obtain ⟨-, -, -, hequal⟩ := houtcome₂ haside₂ htold (note.headTold_of_clean hclean.2.2)
  refine ⟨⟨hcompile, hcompile', by decide +kernel, (hsource _ _ _ _ hcompile hcompile').2⟩,
    ⟨haside, htold, htold', by decide +kernel, hresult⟩, by decide +kernel, by decide +kernel,
    hequal (by decide +kernel)⟩

end Desk

end Conveyance
