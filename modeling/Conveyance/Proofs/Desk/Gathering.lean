import Conveyance.Proofs.Desk.Orderly

/-!
# Proofs/Desk/Gathering — what is looked up for a document

`Targets.lookups` lists the calls for the targets of a document: **one for each target that is
named, payments only within a scope**, and the payment that the document is about.  Gathering the
records of a document makes these calls in this order and up to the first that fails, and each field
of the context holds what its own call returned (`Context.Told`); with a number that no record
carries it makes no call at all (`assemble_scoped`).
-/

namespace Conveyance

/-! ## Calls -/

/-- The call is a question to the registry. -/
def Call.asksRegistry : Call → Bool
  | template _ | client _ | project _ | flat _ | company _ | milestones _ | schedules _
  | requests _ | receipts _ | pending _ | request _ | receipt _ => true
  | image _ | workDirectory | compile .. | read _ | upload .. | delete _ => false

/-- **Nothing but the registry can fail** the call, and nothing follows when it does. -/
def Call.OnlyAsks (c : Call) : Prop :=
  ∀ reply fault, c.fault? reply = some fault →
    (∃ text, fault = .records text) ∧ ∀ after, Event.Followed ⟨c, reply⟩ after → after = []

/-- Of the questions to the registry, only the one for a template can fail in another way. -/
theorem Call.onlyAsks_of_asksRegistry {c : Call} (hc : c.asksRegistry)
    (htemplate : ∀ id, c ≠ .template id) : c.OnlyAsks := by
  intro reply fault h
  cases c
  case template id => exact absurd rfl (htemplate id)
  case image | workDirectory | compile | read | upload | delete => cases hc
  all_goals exact ⟨exists_of_failure? h, fun _ => id⟩

namespace Targets

/-- What narrows the payments that are listed: a client, a project or a flat, or several of them. -/
def scope? (t : Targets) : Option Scope :=
  if t.client.isSome || t.project.isSome || t.flat.isSome then
    some { client := t.client, project := t.project, flat := t.flat }
  else none

/-- **Payments are listed for the targets of the document, and never without a scope.** -/
theorem scope?_eq (t : Targets) :
    t.scope? = if (Scope.ofTargets t).isUnbounded then none else some (Scope.ofTargets t) := by
  obtain ⟨client, project, flat, _⟩ := t
  rcases client with _ | client <;> rcases project with _ | project <;>
    rcases flat with _ | flat <;> rfl

/-- The call for the payment that a document is about. -/
def currentLookups (t : Targets) : DocumentType → List Call
  | .agreement => []
  | .paymentRequest => t.request.toList.map .request
  | .paymentReceipt => t.receipt.toList.map .receipt

/-- **The calls for the targets of a document.** -/
def lookups (t : Targets) (type : DocumentType) : List Call :=
  t.client.toList.map .client ++ t.project.toList.map .project ++ t.flat.toList.map .flat ++
    t.company.toList.map .company ++ t.project.toList.map .milestones ++
    t.flat.toList.map .schedules ++ t.scope?.toList.map .requests ++
    t.scope?.toList.map .receipts ++ t.scope?.toList.map .pending ++ t.currentLookups type

theorem arePossible_iff {t : Targets} : t.arePossible = true ↔ ∀ n, some n ∈ t.ids → 0 < n := by
  rw [arePossible, List.all_eq_true]
  constructor
  · intro h n hn
    simpa using h _ hn
  · rintro h (_ | n) hn
    · rfl
    · simpa using h n hn

/-- **Every call for a target is a question to the registry**, and none is for a template. -/
theorem asksRegistry_of_mem_lookups (t : Targets) (type : DocumentType) :
    ∀ c ∈ t.lookups type, c.asksRegistry ∧ ∀ id, c ≠ .template id := by
  have hcurrent : ∀ c ∈ t.currentLookups type, c.asksRegistry ∧ ∀ id, c ≠ .template id := by
    rcases type with _ | _ | _
    · intro c hc
      cases hc
    · exact List.forall_mem_map.2 fun _ _ => ⟨rfl, fun _ => Call.noConfusion⟩
    · exact List.forall_mem_map.2 fun _ _ => ⟨rfl, fun _ => Call.noConfusion⟩
  simp only [lookups, List.forall_mem_append, List.forall_mem_map]
  refine ⟨?_, hcurrent⟩
  and_intros <;> exact fun _ _ => ⟨rfl, fun _ => Call.noConfusion⟩

/-- **Every call for a target asks the registry only.** -/
theorem onlyAsks_of_mem_lookups (t : Targets) (type : DocumentType) :
    ∀ c ∈ t.lookups type, c.OnlyAsks := by
  intro c hc
  obtain ⟨hasks, htemplate⟩ := t.asksRegistry_of_mem_lookups type c hc
  exact Call.onlyAsks_of_asksRegistry hasks htemplate

end Targets

/-- What is asked about something is answered by the given event; without anything to ask about, it
is blank. -/
def Answered {ι : Type} (es : List Event) (at? : Option ι) (event : ι → Event) (blank : Prop) :
    Prop :=
  match at? with
  | some i => event i ∈ es
  | none => blank

/-- The answer of the registry about the payment that the document is about. -/
def ToldCurrent (type : DocumentType) (t : Targets) (es : List Event)
    (current : Option CurrentRecord) : Prop :=
  match type with
  | .agreement => current = none
  | .paymentRequest => ∃ found, current = found.map .request ∧
      Answered es t.request (fun n => ⟨.request n, .ok found⟩) (found = none)
  | .paymentReceipt => ∃ found, current = found.map .receipt ∧
      Answered es t.receipt (fun n => ⟨.receipt n, .ok found⟩) (found = none)

/-- **Each field of a context is what its own call returned**, or empty where there was none. -/
structure Context.Told (type : DocumentType) (t : Targets) (today : Date) (es : List Event)
    (ctx : Context) : Prop where
  documentType : ctx.documentType = type
  today : ctx.today = today
  client : Answered es t.client (fun n => ⟨.client n, .ok ctx.client⟩) (ctx.client = none)
  project : Answered es t.project (fun n => ⟨.project n, .ok ctx.project⟩) (ctx.project = none)
  flat : Answered es t.flat (fun n => ⟨.flat n, .ok ctx.flat⟩) (ctx.flat = none)
  company : Answered es t.company (fun n => ⟨.company n, .ok ctx.company⟩) (ctx.company = none)
  milestones : Answered es t.project (fun n => ⟨.milestones n, .ok ctx.milestones⟩)
    (ctx.milestones = [])
  schedules : Answered es t.flat (fun n => ⟨.schedules n, .ok ctx.schedules⟩) (ctx.schedules = [])
  requests : Answered es t.scope? (fun s => ⟨.requests s, .ok ctx.requests⟩) (ctx.requests = [])
  receipts : Answered es t.scope? (fun s => ⟨.receipts s, .ok ctx.receipts⟩) (ctx.receipts = [])
  pending : Answered es t.scope? (fun s => ⟨.pending s, .ok ctx.pending⟩) (ctx.pending = [])
  current : ToldCurrent type t es ctx.current

theorem Answered.mono {ι : Type} {es es' : List Event} {at? : Option ι} {event : ι → Event}
    {blank : Prop} (h : Answered es at? event blank) (hes : es ⊆ es') :
    Answered es' at? event blank := by
  rcases at? with _ | i
  · exact h
  · exact hes h

theorem ToldCurrent.mono {type : DocumentType} {t : Targets} {es es' : List Event}
    {current : Option CurrentRecord} (h : ToldCurrent type t es current) (hes : es ⊆ es') :
    ToldCurrent type t es' current := by
  rcases type with _ | _ | _
  · exact h
  · exact h.imp fun _ hfound => hfound.imp_right (·.mono hes)
  · exact h.imp fun _ hfound => hfound.imp_right (·.mono hes)

namespace Drafting

variable {α : Type} {own : DocumentFault → Prop}

/-- What a question returns is the answer to its call. -/
theorem answered_consult {ι : Type} {blank a : α} {at? : Option ι} {c : ι → Call}
    {answer : ∀ i, (c i).Reply → Except Text α} {es : List Event}
    (h : (consult blank at? c answer).Goes es (.ok a)) (told : ∀ i, (c i).Reply)
    (htold : ∀ i reply, answer i reply = .ok a → reply = told i) :
    Answered es at? (fun i => ⟨c i, told i⟩) (a = blank) := by
  rcases at? with _ | i
  · obtain ⟨_, hr⟩ := goes_pure h
    exact Except.ok.inj hr
  · obtain ⟨reply, rfl, hr⟩ := goes_ask h
    rcases hanswer : answer i reply with text | b
    · rw [hanswer] at hr
      cases hr
    · rw [hanswer] at hr
      obtain rfl := Except.ok.inj hr
      exact List.mem_singleton.2 (by rw [htold i reply hanswer])

theorem within_eq_consult (t : Targets) (c : Scope → Call)
    (answer : ∀ s, (c s).Reply → Except Text (List α)) :
    within (Scope.ofTargets t) c answer = consult [] t.scope? c answer := by
  rw [Targets.scope?_eq, within]
  split <;> rfl

theorem IsLookup.orderly_within {c : Scope → Call}
    {answer : ∀ s, (c s).Reply → Except Text (List α)} (hc : IsLookup c answer) (t : Targets) :
    Orderly (within (Scope.ofTargets t) c answer) (· = t.scope?.toList.map c) own := by
  rw [within_eq_consult]
  exact hc.orderly_consult [] t.scope?

/-- The payment that the document is about. -/
theorem orderly_current (t : Targets) (type : DocumentType) :
    Orderly (current type t) (· = t.currentLookups type) own := by
  rcases type with _ | _ | _
  · exact orderly_pure none
  · exact Orderly.map (IsLookup.orderly_lookUp {} t.request) _
  · exact Orderly.map (IsLookup.orderly_lookUp {} t.receipt) _

/-- **Gathering is orderly.** -/
theorem orderly_assemble {t : Targets} (ht : t.arePossible = true) (type : DocumentType)
    (today : Date) : Orderly (assemble type t today) (· = t.lookups type) own := by
  rw [assemble, if_pos ht]
  simp only [Targets.lookups, List.append_assoc]
  refine Orderly.append (IsLookup.orderly_lookUp {} t.client) fun client => ?_
  refine Orderly.append (IsLookup.orderly_lookUp {} t.project) fun project => ?_
  refine Orderly.append (IsLookup.orderly_lookUp {} t.flat) fun flat => ?_
  refine Orderly.append (IsLookup.orderly_lookUp {} t.company) fun company => ?_
  refine Orderly.append (IsLookup.orderly_list {} t.project) fun milestones => ?_
  refine Orderly.append (IsLookup.orderly_list {} t.flat) fun schedules => ?_
  refine Orderly.append (IsLookup.orderly_within {} t) fun requests => ?_
  refine Orderly.append (IsLookup.orderly_within {} t) fun receipts => ?_
  refine Orderly.append (IsLookup.orderly_within {} t) fun pending => ?_
  exact (orderly_current t type).map _

/-! ## Answers -/

theorem answered_lookUp {c : Int → Call} {answer : ∀ n, (c n).Reply → Except Text (Option α)}
    {id? : Option Int} {es : List Event} {a : Option α}
    (h : (lookUp id? c answer).Goes es (.ok a)) (told : ∀ n, (c n).Reply)
    (htold : ∀ n reply, answer n reply = .ok a → reply = told n) :
    Answered es id? (fun n => ⟨c n, told n⟩) (a = none) := by
  rw [lookUp_eq_consult] at h
  exact answered_consult h told htold

theorem answered_list {c : Int → Call} {answer : ∀ n, (c n).Reply → Except Text (List α)}
    {id? : Option Int} {es : List Event} {a : List α}
    (h : (list id? c answer).Goes es (.ok a)) (told : ∀ n, (c n).Reply)
    (htold : ∀ n reply, answer n reply = .ok a → reply = told n) :
    Answered es id? (fun n => ⟨c n, told n⟩) (a = []) := by
  rw [list_eq_consult] at h
  exact answered_consult h told htold

theorem answered_within {c : Scope → Call} {answer : ∀ s, (c s).Reply → Except Text (List α)}
    {t : Targets} {es : List Event} {a : List α}
    (h : (within (Scope.ofTargets t) c answer).Goes es (.ok a)) (told : ∀ s, (c s).Reply)
    (htold : ∀ s reply, answer s reply = .ok a → reply = told s) :
    Answered es t.scope? (fun s => ⟨c s, told s⟩) (a = []) := by
  rw [within_eq_consult] at h
  exact answered_consult h told htold

/-- An answer that is passed on as a record of another kind. -/
theorem answered_map {β : Type} {c : Int → Call}
    {answer : ∀ n, (c n).Reply → Except Text (Option α)} {id? : Option Int} {es : List Event}
    {kind : α → β} {b : Option β}
    (h : (lookUp id? c answer >>= fun found => pure (found.map kind)).Goes es (.ok b))
    (told : Option α → ∀ n, (c n).Reply)
    (htold : ∀ found n reply, answer n reply = .ok found → reply = told found n) :
    ∃ found, b = found.map kind ∧
      Answered es id? (fun n => ⟨c n, told found n⟩) (found = none) := by
  obtain ⟨found, first, rest, hfound, hpure, rfl⟩ := goes_bind_ok h
  obtain ⟨rfl, hb⟩ := goes_pure hpure
  rw [List.append_nil]
  exact ⟨found, Except.ok.inj hb, answered_lookUp hfound _ (htold found)⟩

theorem told_current {type : DocumentType} {t : Targets} {es : List Event}
    {a : Option CurrentRecord} (h : (current type t).Goes es (.ok a)) :
    ToldCurrent type t es a := by
  rcases type with _ | _ | _
  · exact Except.ok.inj (goes_pure h).2
  · exact answered_map h (fun found _ => .ok found) fun _ _ _ hreply => hreply
  · exact answered_map h (fun found _ => .ok found) fun _ _ _ hreply => hreply

/-- One action after another within a whole: each one's exchanges are among those of the whole. -/
theorem goes_bind_within {β : Type} {x : Drafting α} {f : α → Drafting β} {es whole : List Event}
    {b : β} (h : (x >>= f).Goes es (.ok b)) (hes : es ⊆ whole) :
    ∃ a first rest, x.Goes first (.ok a) ∧ first ⊆ whole ∧ (f a).Goes rest (.ok b) ∧
      rest ⊆ whole := by
  obtain ⟨a, first, rest, hx, hf, rfl⟩ := goes_bind_ok h
  exact ⟨a, first, rest, hx, (List.append_subset.1 hes).1, hf, (List.append_subset.1 hes).2⟩

/-- **What is gathered is what was told.** -/
theorem told_of_goes {t : Targets} (ht : t.arePossible = true) {type : DocumentType} {today : Date}
    {es : List Event} {ctx : Context} (h : (assemble type t today).Goes es (.ok ctx)) :
    ctx.Told type t today es := by
  rw [assemble, if_pos ht] at h
  obtain ⟨client, _, _, hclient, inclient, h, hes⟩ := goes_bind_within h (List.Subset.refl es)
  obtain ⟨project, _, _, hproject, inproject, h, hes⟩ := goes_bind_within h hes
  obtain ⟨flat, _, _, hflat, inflat, h, hes⟩ := goes_bind_within h hes
  obtain ⟨company, _, _, hcompany, incompany, h, hes⟩ := goes_bind_within h hes
  obtain ⟨milestones, _, _, hmilestones, inmilestones, h, hes⟩ := goes_bind_within h hes
  obtain ⟨schedules, _, _, hschedules, inschedules, h, hes⟩ := goes_bind_within h hes
  obtain ⟨requests, _, _, hrequests, inrequests, h, hes⟩ := goes_bind_within h hes
  obtain ⟨receipts, _, _, hreceipts, inreceipts, h, hes⟩ := goes_bind_within h hes
  obtain ⟨pending, _, _, hpending, inpending, h, hes⟩ := goes_bind_within h hes
  obtain ⟨current, _, _, hcurrent, incurrent, h, hes⟩ := goes_bind_within h hes
  obtain ⟨_, hctx⟩ := goes_pure h
  obtain rfl := Except.ok.inj hctx
  exact {
    documentType := rfl
    today := rfl
    client := (answered_lookUp hclient _ fun _ _ hr => hr).mono inclient
    project := (answered_lookUp hproject _ fun _ _ hr => hr).mono inproject
    flat := (answered_lookUp hflat _ fun _ _ hr => hr).mono inflat
    company := (answered_lookUp hcompany _ fun _ _ hr => hr).mono incompany
    milestones := (answered_list hmilestones _ fun _ _ hr => hr).mono inmilestones
    schedules := (answered_list hschedules _ fun _ _ hr => hr).mono inschedules
    requests := (answered_within hrequests _ fun _ _ hr => hr).mono inrequests
    receipts := (answered_within hreceipts _ fun _ _ hr => hr).mono inreceipts
    pending := (answered_within hpending _ fun _ _ hr => hr).mono inpending
    current := (told_current hcurrent).mono incurrent }

/-! ## Gathering -/

/-- An orderly action with nothing but calls that only ask **ends with the first call that fails**,
with the words of the registry. -/
theorem Stops.last {calls : List Call} {es : List Event} {fault : DocumentFault}
    (h : Stops (· = calls) es fault) (hcalls : ∀ c ∈ calls, c.OnlyAsks) :
    ∃ before e text, es = before ++ [e] ∧ Clean before ∧ e.fault? = some fault ∧
      fault = .records text ∧ es.map (·.call) <+: calls := by
  obtain ⟨before, e, after, rfl, hclean, hfault, hafter, course, hcourse, hprefix⟩ := h
  rw [hcourse] at hprefix
  have he : e.call ∈ calls :=
    hprefix.subset (List.mem_map_of_mem (List.mem_append_right _ (List.mem_singleton_self e)))
  obtain ⟨⟨text, hrecords⟩, hnone⟩ := hcalls e.call he e.reply fault hfault
  obtain rfl := hnone after hafter
  exact ⟨before, e, text, rfl, hclean, hfault, hrecords, hprefix⟩

/-- **A document is drafted from what was asked for it alone.**  With a number that no record
carries nothing is looked up and the context is empty.  Otherwise the calls are those for the
targets, payments within their scope only, and each field is what its own call returned; the first
call that fails ends the gathering. -/
theorem assemble_scoped (type : DocumentType) (t : Targets) (today : Date) {σ : Type}
    (answer : (c : Call) → σ → c.Reply × σ) (s : σ) :
    ((∃ n, some n ∈ t.ids ∧ n ≤ 0) ∧ (assemble type t today).run.calls answer s = [] ∧
        (assemble type t today).run.run answer s = (.ok (.empty type today), s)) ∨
      ((∀ n, some n ∈ t.ids → 0 < n) ∧
        match ((assemble type t today).run.run answer s).1 with
        | .ok ctx => (assemble type t today).run.calls answer s = t.lookups type ∧
            Clean ((assemble type t today).run.exchanges answer s) ∧
            ctx.Told type t today ((assemble type t today).run.exchanges answer s)
        | .error fault => ∃ before e text,
            (assemble type t today).run.exchanges answer s = before ++ [e] ∧ Clean before ∧
              e.fault? = some fault ∧ fault = .records text ∧
              (assemble type t today).run.calls answer s <+: t.lookups type) := by
  by_cases ht : t.arePossible = true
  · -- nothing but the registry is asked, so gathering ends with its context or with its failure
    have hgoes : (assemble type t today).Goes ((assemble type t today).run.exchanges answer s)
        ((assemble type t today).run.run answer s).1 := Procedure.runs_exchanges answer _ s
    have horderly : Orderly (assemble type t today) (· = t.lookups type) fun _ => False :=
      orderly_assemble ht type today
    have hends := horderly _ _ hgoes
    rw [← Procedure.map_call_exchanges]
    refine .inr ⟨Targets.arePossible_iff.1 ht, ?_⟩
    rcases hresult : ((assemble type t today).run.run answer s).1 with fault | ctx
    · rw [hresult] at hends
      exact Stops.last (hends.resolve_right id) (t.onlyAsks_of_mem_lookups type)
    · rw [hresult] at hends hgoes
      exact ⟨hends.1, hends.2, told_of_goes ht hgoes⟩
  · refine .inl ⟨?_, ?_, ?_⟩
    · rw [Targets.arePossible_iff] at ht
      push Not at ht
      simpa only [Int.not_lt] using ht
    · rw [assemble, if_neg ht]
      rfl
    · rw [assemble, if_neg ht]
      rfl

end Drafting

end Conveyance
