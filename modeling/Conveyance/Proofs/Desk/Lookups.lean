import Conveyance.Proofs.Desk.Preview
import Conveyance.Proofs.Resolve.Overflow

/-!
# Proofs/Desk/Lookups — the numbers that are looked up

Records are numbered from one.  A request for another template or letterhead company is refused, and
for targets with such a number nothing is looked up at all, but the company of the letterhead may be
the target without having been checked (`GenerateRequest.strayHead?`).  **That is the one way to a
look-up that can find nothing** (`lookups_pos_unless_strayHead`); otherwise a request with a number
that no record carries is refused, or made out with blanks.
-/

namespace Conveyance

/-! ## Numbers -/

/-- The numbers that narrow a scope. -/
def Scope.ids (s : Scope) : List Int := s.client.toList ++ s.project.toList ++ s.flat.toList

namespace Call

/-- **The numbers that a call looks up**, its own or those of its scope. -/
def ids : Call → List Int
  | template id | client id | project id | flat id | company id | milestones id | schedules id
  | request id | receipt id => [id]
  | requests scope | receipts scope | pending scope => scope.ids
  | image _ | workDirectory | compile .. | read _ | upload .. | delete _ => []

theorem asksRegistry_of_mem_ids {c : Call} {n : Int} (h : n ∈ c.ids) : c.asksRegistry := by
  cases c
  case image | workDirectory | compile | read | upload | delete => cases h
  all_goals rfl

end Call

namespace Targets

theorem arePossible_eq_false_iff {t : Targets} :
    t.arePossible = false ↔ ∃ n, some n ∈ t.ids ∧ n ≤ 0 := by
  rw [← Bool.not_eq_true, arePossible_iff]
  push Not
  rfl

variable (t : Targets) (type : DocumentType)

/-- A call for a target that is named looks up its number. -/
theorem mem_ids_of_mem_map {id? : Option Int} (hid : id? ∈ t.ids) {c : Int → Call}
    (hc : ∀ n, (c n).ids = [n]) : ∀ call ∈ id?.toList.map c, ∀ n ∈ call.ids, some n ∈ t.ids := by
  refine List.forall_mem_map.2 fun m hm n hn => ?_
  rw [hc, List.mem_singleton] at hn
  obtain rfl := hn
  rwa [← Option.mem_toList.1 hm]

/-- The numbers of the scope are numbers of the targets. -/
theorem mem_ids_of_mem_scope {s : Scope} (hs : s ∈ t.scope?) : ∀ n ∈ s.ids, some n ∈ t.ids := by
  intro n hn
  rw [scope?] at hs
  split at hs
  · obtain rfl := Option.some.inj hs
    simp only [Scope.ids, List.mem_append, Option.mem_toList] at hn
    simp only [ids, List.mem_cons]
    tauto
  · cases hs

/-- **Only numbers of the targets are looked up for them.** -/
theorem mem_ids_of_mem_lookups : ∀ c ∈ t.lookups type, ∀ n ∈ c.ids, some n ∈ t.ids := by
  have hscope : ∀ c : Scope → Call, (∀ s, (c s).ids = s.ids) →
      ∀ call ∈ t.scope?.toList.map c, ∀ n ∈ call.ids, some n ∈ t.ids := by
    intro c hc
    refine List.forall_mem_map.2 fun s hs => ?_
    rw [hc]
    exact t.mem_ids_of_mem_scope (Option.mem_toList.1 hs)
  have hcurrent : ∀ c ∈ t.currentLookups type, ∀ n ∈ c.ids, some n ∈ t.ids := by
    rcases type with _ | _ | _
    · intro c hc
      cases hc
    · exact t.mem_ids_of_mem_map (by simp [ids]) fun _ => rfl
    · exact t.mem_ids_of_mem_map (by simp [ids]) fun _ => rfl
  simp only [lookups, List.forall_mem_append]
  refine ⟨⟨⟨⟨⟨⟨⟨⟨⟨?_, ?_⟩, ?_⟩, ?_⟩, ?_⟩, ?_⟩, ?_⟩, ?_⟩, ?_⟩, hcurrent⟩
  case refine_7 | refine_8 | refine_9 => exact hscope _ fun _ => rfl
  all_goals exact t.mem_ids_of_mem_map (by simp [ids]) fun _ => rfl

/-- **The numbers that are looked up for the targets are above zero.** -/
theorem pos_of_mem_gathering : ∀ c ∈ t.gathering type, ∀ n ∈ c.ids, 0 < n := by
  intro c hc n hn
  rw [gathering] at hc
  split at hc
  · exact arePossible_iff.1 ‹_› n (t.mem_ids_of_mem_lookups type c hc n hn)
  · cases hc

end Targets

namespace GenerateRequest

/-- **The numbers that a request carries.** -/
def ids (r : GenerateRequest) : List (Option Int) :=
  some r.template :: r.letterheadCompany :: r.targets.ids

/-- **A letterhead that cannot exist**: it is that of the target, whose number no record carries. -/
def strayHead? (r : GenerateRequest) : Option Int :=
  match r.letterhead, r.letterheadCompany with
  | .company, none => r.targets.company.filter (· ≤ 0)
  | _, _ => none

theorem strayHead?_eq_some_iff {r : GenerateRequest} {n : Int} : r.strayHead? = some n ↔
    r.letterhead = .company ∧ r.letterheadCompany = none ∧ r.targets.company = some n ∧ n ≤ 0 := by
  rw [strayHead?]
  split
  next hhead hnone => simp [hhead, hnone, Option.filter_eq_some_iff]
  next hother => exact iff_of_false (by simp) fun h => hother h.1 h.2.1

/-- A request is accepted only with numbers above zero for its template and its letterhead. -/
theorem pos_of_accepted {r : GenerateRequest} (h : r.complaints = []) :
    0 < r.template ∧ ∀ n ∈ r.letterheadCompany, 0 < n := by
  simp only [complaints, List.append_eq_nil_iff] at h
  obtain ⟨⟨htemplate, hhead⟩, -⟩ := h
  have hpos : ∀ {id : Int} {field label : Text}, Complaint.ofId id field label = [] → 0 < id := by
    intro id field label hid
    by_contra hnot
    rw [Complaint.ofId, if_neg hnot] at hid
    cases hid
  refine ⟨hpos htemplate, fun n hn => ?_⟩
  rw [Option.mem_def.1 hn] at hhead
  exact hpos hhead

end GenerateRequest

/-! ## Calls -/

namespace Drafting

variable {α β σ : Type} {x : Drafting α} {f : α → Drafting β}
  {answer : (c : Call) → σ → c.Reply × σ} {s : σ} {c : Call}

theorem run_ask (c : Call) (decide : c.Reply → Except DocumentFault α) :
    (ask c decide).run.run answer s = (decide (answer c s).1, (answer c s).2) := rfl

/-- A call of the first of two actions is made. -/
theorem mem_calls_bind_left (h : c ∈ x.run.calls answer s) : c ∈ (x >>= f).run.calls answer s := by
  rcases hx : x.run.run answer s with ⟨fault | a, s'⟩
  · rwa [calls_bind_error hx]
  · rw [calls_bind_ok hx]
    exact List.mem_append_left _ h

/-- A call of the second of two actions is made when the first has succeeded. -/
theorem mem_calls_bind_right {a : α} {s' : σ} (hx : x.run.run answer s = (.ok a, s'))
    (h : c ∈ (f a).run.calls answer s') : c ∈ (x >>= f).run.calls answer s := by
  rw [calls_bind_ok hx]
  exact List.mem_append_right _ h

end Drafting

namespace Desk

open Drafting

variable (desk : Desk) (occasion : Occasion) (r : GenerateRequest)

/-- **For targets that no record can have, a template is filled in with blanks**, without a call.
-/
theorem fillIn_eq_pure {t : Targets} (ht : t.arePossible = false) (today : Date)
    (type : DocumentType) (content : Text) :
    ∃ rendering, desk.fillIn today type t content = pure rendering := by
  obtain ⟨rendering, hrendering⟩ := exists_renderTemplate?_empty desk.format content type today
  refine ⟨rendering, ?_⟩
  have hbind : ∀ (ctx : Context) (g : Context → Drafting Rendering),
      ((pure ctx : Drafting Context) >>= g) = g ctx := fun _ _ => rfl
  rw [fillIn, assemble, if_neg (Bool.eq_false_iff.1 ht), hbind]
  simp only [hrendering]

/-- **The questions of a request to the registry**: its template, what its targets allow, and the
company of its letterhead. -/
theorem makes_generate : (desk.generate occasion r).Makes fun c => c.asksRegistry →
    c = .template r.template ∨ c ∈ r.targets.gathering r.documentType ∨
      r.letterhead = .company ∧ ∃ n, r.headCompany = some n ∧ c = .company n := by
  refine (makes_accept _).bind fun _ => Makes.bind ?_ fun template => Makes.bind ?_
    fun rendering => Makes.bind ?_ fun letterhead => Makes.bind ?_ fun bytes => Makes.bind ?_
    fun _ => makes_pure _
  · exact (makes_template _).mono fun c hc _ => .inl hc
  · exact (desk.makes_fillIn _ _ _ _).mono fun c hc _ => .inr (.inl hc)
  · refine (makes_letterhead r).mono fun c hc hasks => ?_
    obtain hc | ⟨path, rfl⟩ := hc
    · exact .inr (.inr hc)
    · cases hasks
  · refine (makes_compile _ _).mono fun c hc hasks => ?_
    simp only [List.mem_cons, List.not_mem_nil, or_false] at hc
    obtain rfl | rfl | rfl := hc <;> cases hasks
  · refine (makes_share _ _).mono fun c hc hasks => ?_
    simp only [List.mem_cons, List.not_mem_nil, or_false] at hc
    obtain rfl | rfl := hc <;> cases hasks

/-- **A request that is not accepted** ends there. -/
theorem generate_of_complaints {r : GenerateRequest} (hr : r.complaints ≠ []) :
    desk.generate occasion r = throw (.invalid r.complaints) := by
  rw [generate, accept, if_neg (mt List.isEmpty_iff.1 hr)]
  rfl

variable {σ : Type} {answer : (c : Call) → σ → c.Reply × σ} {s : σ} {desk occasion r}

/-- An accepted request goes on without a call. -/
theorem run_accept (hr : r.complaints = []) :
    (accept r.complaints).run.run answer s = (.ok (), s) := by
  rw [hr]
  rfl

/-- A request is accepted where it makes a call. -/
theorem accepted_of_mem_calls {c : Call} (h : c ∈ (desk.generate occasion r).run.calls answer s) :
    r.complaints = [] := by
  by_contra hr
  rw [desk.generate_of_complaints occasion hr] at h
  cases h

/-- **A look-up that can find nothing** is the one of a letterhead that cannot exist. -/
theorem strayHead_of_mem_ids {c : Call} (hc : c ∈ (desk.generate occasion r).run.calls answer s)
    {n : Int} (hmem : n ∈ c.ids) (hn : n ≤ 0) : r.strayHead? = some n ∧ c = .company n := by
  have ⟨htemplate, hhead⟩ := GenerateRequest.pos_of_accepted (accepted_of_mem_calls hc)
  obtain rfl | hgathering | ⟨hcompany, m, hm, rfl⟩ :=
    (desk.makes_generate occasion r).of_mem_calls hc (Call.asksRegistry_of_mem_ids hmem)
  · obtain rfl := List.mem_singleton.1 hmem
    omega
  · have hpos := r.targets.pos_of_mem_gathering r.documentType c hgathering n hmem
    omega
  · obtain rfl := List.mem_singleton.1 hmem
    rw [GenerateRequest.headCompany] at hm
    rcases hown : r.letterheadCompany with _ | k
    · rw [hown, Option.none_or] at hm
      exact ⟨GenerateRequest.strayHead?_eq_some_iff.2 ⟨hcompany, hown, hm, hn⟩, rfl⟩
    · rw [hown, Option.some_or] at hm
      obtain rfl := Option.some.inj hm
      have hpos := hhead k hown
      omega

/-- **A template is there** when it has been found. -/
theorem run_template_eq_ok_iff {id : Int} {found : Template} {s' : σ} :
    (template id).run.run answer s = (.ok found, s') ↔
      answer (.template id) s = ((.ok (some found) : Except Text (Option Template)), s') := by
  rw [template_eq_ask, run_ask]
  rcases answer (.template id) s with ⟨reply, s''⟩
  rcases reply with text | (_ | other)
  · exact ⟨nofun, nofun⟩
  · exact ⟨nofun, nofun⟩
  · constructor <;> (rintro ⟨⟩; rfl)

/-- Every other call is made after the template has been found. -/
theorem exists_template_of_mem_calls {c : Call}
    (hc : c ∈ (desk.generate occasion r).run.calls answer s) (hne : c ≠ .template r.template) :
    ∃ found, (answer (.template r.template) s).1 =
      (.ok (some found) : Except Text (Option Template)) := by
  have hr := accepted_of_mem_calls hc
  have haccept : (accept r.complaints).Makes fun _ => False := makes_accept _
  obtain ⟨_, -, hc⟩ := haccept.mem_calls_bind id hc
  obtain ⟨found, hfound, -⟩ := (makes_template r.template).mem_calls_bind hne hc
  rw [run_accept hr] at hfound
  exact ⟨found, congrArg Prod.fst (run_template_eq_ok_iff.1 (Prod.ext hfound rfl))⟩

/-- **The letterhead is looked up** when the request is accepted and the template is found, if the
records are not to be. -/
theorem mem_calls_of_strayHead (hr : r.complaints = []) {n : Int} (hn : r.strayHead? = some n)
    {found : Template} (hfound : (answer (.template r.template) s).1 =
      (.ok (some found) : Except Text (Option Template))) :
    .company n ∈ (desk.generate occasion r).run.calls answer s := by
  obtain ⟨hcompany, hown, htarget, hpos⟩ := GenerateRequest.strayHead?_eq_some_iff.1 hn
  have ht : r.targets.arePossible = false :=
    Targets.arePossible_eq_false_iff.2 ⟨n, by simp [Targets.ids, htarget], hpos⟩
  obtain ⟨rendering, hfill⟩ := desk.fillIn_eq_pure ht occasion.today r.documentType found.content
  refine mem_calls_bind_right (run_accept hr) (mem_calls_bind_right
    (run_template_eq_ok_iff.2 (Prod.ext hfound rfl)) ?_)
  rw [hfill]
  refine mem_calls_bind_right (x := pure rendering) rfl (mem_calls_bind_left ?_)
  rw [letterhead, hcompany, GenerateRequest.headCompany, hown, htarget]
  exact mem_calls_bind_left List.mem_cons_self

/-- **A request for targets that no record can have is made out with blanks**: nothing is asked for
them, and there is a document unless a call fails. -/
theorem completes_of_impossible (hr : r.complaints = []) (ht : r.targets.arePossible = false) :
    (∀ c ∈ (desk.generate occasion r).run.calls answer s, c.asksRegistry →
      c = .template r.template ∨ ∃ n, r.headCompany = some n ∧ c = .company n) ∧
    ((∃ g, ((desk.generate occasion r).run.run answer s).1 = .ok g) ↔
      Clean ((desk.generate occasion r).run.exchanges answer s)) := by
  refine ⟨fun c hc hasks => ?_, ?_⟩
  · obtain hc | hc | ⟨-, hc⟩ := (desk.makes_generate occasion r).of_mem_calls hc hasks
    · exact .inl hc
    · rw [Targets.gathering, ht] at hc
      cases hc
    · exact .inr hc
  · -- what is filled in from an empty context has no total out of range
    have hover : ¬ desk.Overflowed occasion.today r
        ((desk.generate occasion r).run.exchanges answer s) := by
      rintro ⟨template, _, ctx, -, -, -, hdrawn, hrender⟩
      rw [Context.DrawnFrom, if_neg (Bool.eq_false_iff.1 ht)] at hdrawn
      obtain ⟨_, hrendering⟩ :=
        exists_renderTemplate?_empty desk.format template.content r.documentType occasion.today
      rw [hdrawn, hrendering] at hrender
      cases hrender
    have hends := ends_of_goes
      (Procedure.runs_exchanges answer (desk.generate occasion r).run s)
    rw [hends.ok_iff]
    exact ⟨fun h => h.2.1, fun h => ⟨hr, h, hover⟩⟩

/-- **No look-up can find nothing but for one letterhead.**  A number that no record carries is
looked up only as the company of the letterhead, and just when the request is accepted, takes its
letterhead from a target with such a number and finds its template.  Every request that carries
such a number is refused without a call or is made out with blanks, its records not asked for. -/
theorem lookups_pos_unless_strayHead (desk : Desk) (occasion : Occasion) (r : GenerateRequest)
    {σ : Type} (answer : (c : Call) → σ → c.Reply × σ) (s : σ) :
    let calls := (desk.generate occasion r).run.calls answer s
    let result := ((desk.generate occasion r).run.run answer s).1
    (∀ c ∈ calls, ∀ n ∈ c.ids, n ≤ 0 → r.strayHead? = some n ∧ c = .company n) ∧
    ((∃ c ∈ calls, ∃ n ∈ c.ids, n ≤ 0) ↔
      r.complaints = [] ∧ r.strayHead?.isSome ∧ ∃ found, (answer (.template r.template) s).1 =
        (.ok (some found) : Except Text (Option Template))) ∧
    ((∃ n, some n ∈ r.ids ∧ n ≤ 0) →
      (r.complaints ≠ [] ∧ calls = [] ∧ result = .error (.invalid r.complaints)) ∨
      (r.complaints = [] ∧
        (∀ c ∈ calls, c.asksRegistry →
          c = .template r.template ∨ ∃ n, r.headCompany = some n ∧ c = .company n) ∧
        ((∃ g, result = .ok g) ↔
          Clean ((desk.generate occasion r).run.exchanges answer s)))) := by
  intro calls result
  refine ⟨fun c hc n hmem hn => strayHead_of_mem_ids hc hmem hn, ⟨?_, ?_⟩, ?_⟩
  · rintro ⟨c, hc, n, hmem, hn⟩
    obtain ⟨hhead, rfl⟩ := strayHead_of_mem_ids hc hmem hn
    exact ⟨accepted_of_mem_calls hc, by rw [hhead]; rfl,
      exists_template_of_mem_calls hc Call.noConfusion⟩
  · rintro ⟨hr, hhead, found, hfound⟩
    obtain ⟨n, hn⟩ := Option.isSome_iff_exists.1 hhead
    exact ⟨.company n, mem_calls_of_strayHead hr hn hfound, n, List.mem_singleton_self n,
      (GenerateRequest.strayHead?_eq_some_iff.1 hn).2.2.2⟩
  · rintro ⟨n, hmem, hn⟩
    by_cases hr : r.complaints = []
    · have ⟨htemplate, hhead⟩ := GenerateRequest.pos_of_accepted hr
      have ht : some n ∈ r.targets.ids := by
        obtain h | h := List.mem_cons.1 hmem
        · obtain rfl := Option.some.inj h
          omega
        · refine (List.mem_cons.1 h).resolve_left fun h => ?_
          have hpos := hhead n h.symm
          omega
      exact .inr ⟨hr, completes_of_impossible hr (Targets.arePossible_eq_false_iff.2 ⟨n, ht, hn⟩)⟩
    · refine .inl ⟨hr, ?_, ?_⟩
      · exact congrArg (fun x => x.run.calls answer s) (desk.generate_of_complaints occasion hr)
      · exact congrArg (fun x => (x.run.run answer s).1) (desk.generate_of_complaints occasion hr)

/-- A note for a company that cannot exist, under its letterhead. -/
def strayNote : GenerateRequest where
  template := 1
  documentType := .agreement
  targets := { company := some 0 }
  letterhead := .company

/-- The company that cannot exist is looked up. -/
theorem lookups_strayNote :
    ∃ c ∈ (({ address := id } : Desk).generate newYear strayNote).run.calls oneClient.answer none,
      ∃ n ∈ c.ids, n ≤ 0 :=
  ⟨.company 0, by decide +kernel, 0, List.mem_singleton_self 0, Int.le_refl 0⟩

end Desk

end Conveyance
