import Conveyance.Proofs.Desk.Gathering

/-!
# Proofs/Desk/Protocol — the calls of a request, and how it ends

A request that is accepted makes the calls of its `Desk.Plan`: the template, the records, the
letterhead, the printing, and last the upload.  **It ends at the first call that fails, with the
fault of that call**, and a failed upload is followed by one deletion of the same object.  Only when
every call succeeds is there a document: one object was uploaded, and its bytes are those of the
file that was compiled (`generate_protocol`).
-/

namespace Conveyance

/-! ## Plans -/

/-- The calls for the records of a document. -/
def Targets.gathering (t : Targets) (type : DocumentType) : List Call :=
  if t.arePossible then t.lookups type else []

/-- The context is drawn from what was told; with a number that no record carries it is empty. -/
def Context.DrawnFrom (type : DocumentType) (t : Targets) (today : Date) (es : List Event)
    (ctx : Context) : Prop :=
  if t.arePossible then ctx.Told type t today es else ctx = .empty type today

/-- **The calls for a letterhead**: at most one for its company, and then at most one for the image
of the company's paper. -/
def GenerateRequest.HeadCalls (r : GenerateRequest) (calls : List Call) : Prop :=
  match r.letterhead, r.headCompany with
  | .company, some id => calls = [.company id] ∨ ∃ path, calls = [.company id, .image path]
  | _, _ => calls = []

namespace Desk

/-- The calls for a printed document: it is compiled into a file, and the bytes of that file are put
into the store. -/
def PrintCalls (desk : Desk) (calls : List Call) : Prop :=
  ∃ name document bytes, calls =
    [.workDirectory, .compile name document, .read name, .upload (desk.objectName name) bytes]

/-- The calls after those for the records. -/
def FinishCalls (desk : Desk) (r : GenerateRequest) (calls : List Call) : Prop :=
  ∃ head print, r.HeadCalls head ∧ desk.PrintCalls print ∧ calls = head ++ print

/-- **The calls of a request** when none of them fails. -/
def Plan (desk : Desk) (r : GenerateRequest) (calls : List Call) : Prop :=
  ∃ finish, desk.FinishCalls r finish ∧
    calls = .template r.template :: (r.targets.gathering r.documentType ++ finish)

/-! ## Ends -/

/-- **A total left the range of decimals** when the template was filled in; nothing was asked for
after the records. -/
def Overflowed (desk : Desk) (today : Date) (r : GenerateRequest) (es : List Event) : Prop :=
  ∃ template gathered ctx, es = ⟨.template r.template, .ok (some template)⟩ :: gathered ∧
    Clean gathered ∧ gathered.map (·.call) = r.targets.gathering r.documentType ∧
    ctx.DrawnFrom r.documentType r.targets today gathered ∧
    renderTemplate? desk.format ctx template.content = none

/-- **A document was shared**: it was compiled into a file, the bytes of that file were uploaded,
and what is returned is their number and the address of the object. -/
def Shared (desk : Desk) (occasion : Occasion) (r : GenerateRequest) (es : List Event)
    (g : Generated) : Prop :=
  ∃ template gathered head document bytes,
    es = ⟨.template r.template, .ok (some template)⟩ :: (gathered ++ (head ++
      [⟨.workDirectory, .ok ()⟩, ⟨.compile g.fileName document, .ok ()⟩,
        ⟨.read g.fileName, .ok bytes⟩, ⟨.upload (desk.objectName g.fileName) bytes, .ok ()⟩])) ∧
    gathered.map (·.call) = r.targets.gathering r.documentType ∧
    r.HeadCalls (head.map (·.call)) ∧
    g = { fileName := FileName.documentName r.documentType template.name occasion.stamp,
          url := desk.address (desk.objectName g.fileName), size := bytes.length,
          documentType := r.documentType }

/-- **How a request may end**: refused without a call, stopped at the first call that fails, stopped
by a total out of range, or with a document that is shared. -/
inductive Ends (desk : Desk) (occasion : Occasion) (r : GenerateRequest) :
    List Event → Except DocumentFault Generated → Prop where
  | refused (h : r.complaints ≠ []) : Ends desk occasion r [] (.error (.invalid r.complaints))
  | stopped {es : List Event} {fault : DocumentFault} (h : r.complaints = [])
      (hstops : Drafting.Stops (desk.Plan r) es fault) : Ends desk occasion r es (.error fault)
  | overflowed {es : List Event} (h : r.complaints = [])
      (hover : desk.Overflowed occasion.today r es) : Ends desk occasion r es (.error .overflow)
  | shared {es : List Event} {g : Generated} (h : r.complaints = []) (hclean : Clean es)
      (hshared : desk.Shared occasion r es g) : Ends desk occasion r es (.ok g)

end Desk

/-! ## Steps -/

namespace Drafting

variable {α : Type} {own : DocumentFault → Prop}

/-- Where numbers are possible or not, gathering is orderly. -/
theorem orderly_gathering (type : DocumentType) (t : Targets) (today : Date) :
    Orderly (assemble type t today) (· = t.gathering type) own := by
  by_cases ht : t.arePossible = true
  · rw [Targets.gathering, if_pos ht]
    exact orderly_assemble ht type today
  · rw [Targets.gathering, if_neg ht, assemble, if_neg ht]
    exact orderly_pure _

theorem drawnFrom_of_goes {type : DocumentType} {t : Targets} {today : Date} {es : List Event}
    {ctx : Context} (h : (assemble type t today).Goes es (.ok ctx)) :
    ctx.DrawnFrom type t today es := by
  by_cases ht : t.arePossible = true
  · rw [Context.DrawnFrom, if_pos ht]
    exact told_of_goes ht h
  · rw [assemble, if_neg ht] at h
    rw [Context.DrawnFrom, if_neg ht]
    exact Except.ok.inj (goes_pure h).2

/-- A company is asked for its paper at most once, and an image that cannot be read does not end the
request. -/
theorem orderly_letterheadOf (company : Company) :
    Orderly (letterheadOf company) (fun calls => calls = [] ∨ ∃ path, calls = [.image path])
      own := by
  rw [letterheadOf]
  rcases imagePath? company with _ | path
  · exact (orderly_pure _).mono fun _ => .inl
  · refine Orderly.mono (orderly_ask (fun _ => ?_) fun reply => ?_) fun calls h => .inr ⟨path, h⟩
    · rfl
    · rcases reply with fault | bytes <;> rfl

theorem orderly_letterhead (r : GenerateRequest) : Orderly (letterhead r) r.HeadCalls own := by
  rw [letterhead]
  rcases hchoice : r.letterhead with _ | _
  · refine (orderly_pure Letterhead.blank).mono fun calls h => ?_
    simpa only [GenerateRequest.HeadCalls, hchoice] using h
  · rcases hid : r.headCompany with _ | id
    · refine (orderly_pure Letterhead.blank).mono fun calls h => ?_
      simpa only [GenerateRequest.HeadCalls, hchoice, hid] using h
    · refine (IsLookup.orderly_lookUp {} (some id)).bind
        (fun calls => calls = [] ∨ ∃ path, calls = [.image path]) (fun found => ?_)
        (fun p q hp hq => ?_) ⟨[], .inl rfl⟩
      · rcases found with _ | company
        · exact (orderly_pure Letterhead.blank).mono fun _ => .inl
        · exact orderly_letterheadOf company
      · simp only [GenerateRequest.HeadCalls, hchoice, hid]
        obtain rfl | ⟨path, rfl⟩ := hq
        · exact .inl (by rw [hp]; rfl)
        · exact .inr ⟨path, by rw [hp]; rfl⟩

end Drafting

namespace Desk

open Drafting

variable {own : DocumentFault → Prop}

theorem orderly_accept {complaints : List Complaint}
    (h : complaints ≠ [] → own (.invalid complaints)) :
    Orderly (accept complaints) (· = []) own := by
  rw [accept]
  rcases complaints with _ | ⟨c, cs⟩
  · exact orderly_pure ()
  · exact orderly_throw (h (List.cons_ne_nil c cs))

theorem goes_accept {complaints : List Complaint} {es : List Event} {r : Except DocumentFault Unit}
    (h : (accept complaints).Goes es r) :
    es = [] ∧ r = if complaints = [] then .ok () else .error (.invalid complaints) := by
  rw [accept] at h
  rcases complaints with _ | ⟨c, cs⟩
  · exact goes_pure h
  · exact goes_throw h

/-- The template is one call; that there is none is a failure of it. -/
theorem template_eq_ask (id : Int) : template id = ask (.template id) fun
    | .ok (some found) => .ok found
    | .ok none => .error (.noTemplate id)
    | .error text => .error (.records text) := by
  refine congrArg (Procedure.call (Call.template id)) (funext fun reply => ?_)
  rcases reply with text | (_ | found) <;> rfl

theorem orderly_template (id : Int) : Orderly (template id) (· = [.template id]) own := by
  rw [template_eq_ask]
  refine orderly_ask (fun reply => rfl) fun reply => ?_
  rcases reply with text | (_ | found) <;> rfl

theorem eq_of_goes_template {id : Int} {es : List Event} {found : Template}
    (h : (template id).Goes es (.ok found)) : es = [⟨.template id, .ok (some found)⟩] := by
  rw [template_eq_ask] at h
  obtain ⟨reply, rfl, hreply⟩ := goes_ask h
  rcases reply with text | (_ | other)
  · cases hreply
  · cases hreply
  · obtain rfl := Except.ok.inj hreply
    rfl

theorem orderly_fillIn (desk : Desk) (today : Date) (type : DocumentType) (t : Targets)
    (content : Text) (h : own .overflow) :
    Orderly (desk.fillIn today type t content) (· = t.gathering type) own := by
  refine (orderly_gathering type t today).bind (· = []) (fun ctx => ?_)
    (fun p q hp hq => by rwa [hq, List.append_nil]) ⟨[], rfl⟩
  rcases renderTemplate? desk.format ctx content with _ | rendering
  · exact orderly_throw h
  · exact orderly_pure rendering

theorem overflow_of_goes_fillIn {desk : Desk} {today : Date} {type : DocumentType} {t : Targets}
    {content : Text} {es : List Event}
    (h : (desk.fillIn today type t content).Goes es (.error .overflow)) :
    ∃ ctx : Context, Clean es ∧ es.map (·.call) = t.gathering type ∧
      ctx.DrawnFrom type t today es ∧ renderTemplate? desk.format ctx content = none := by
  have hgathering : Orderly (assemble type t today) (· = t.gathering type) fun _ => False :=
    orderly_gathering type t today
  obtain ⟨ctx, gathered, _, hgathered, hfilled, rfl⟩ := goes_bind_of_overflow hgathering h
  rcases hrender : renderTemplate? desk.format ctx content with _ | rendering
  · simp only [hrender] at hfilled
    obtain ⟨rfl, _⟩ := goes_throw hfilled
    obtain ⟨hcalls, hclean⟩ := hgathering _ _ hgathered
    rw [List.append_nil]
    exact ⟨ctx, hclean, hcalls, drawnFrom_of_goes hgathered, hrender⟩
  · simp only [hrender] at hfilled
    cases (goes_pure hfilled).2

theorem orderly_compile (document : TypstDocument) (name : Text) :
    Orderly (compile document name) (· = [.workDirectory, .compile name document, .read name])
      own := by
  have hstep : ∀ {ε α : Type} (wrap : ε → DocumentFault) (reply : Except ε α),
      Call.failure? wrap reply = Call.failure? id (reply.mapError wrap) := by
    rintro ε α wrap (e | a) <;> rfl
  refine Orderly.append (p := [.workDirectory]) (orderly_ask (fun _ => rfl) (hstep _)) fun _ => ?_
  exact Orderly.append (p := [.compile name document]) (orderly_ask (fun _ => rfl) (hstep _))
    fun _ => orderly_ask (fun _ => rfl) (hstep _)

theorem eq_of_goes_compile {document : TypstDocument} {name : Text} {es : List Event}
    {bytes : List UInt8} (h : (compile document name).Goes es (.ok bytes)) :
    es = [⟨.workDirectory, .ok ()⟩, ⟨.compile name document, .ok ()⟩, ⟨.read name, .ok bytes⟩] := by
  have hok : ∀ {ε α : Type} {wrap : ε → DocumentFault} {reply : Except ε α} {a : α},
      .ok a = reply.mapError wrap → reply = .ok a := by
    rintro ε α wrap (e | b) a h
    · cases h
    · obtain rfl := Except.ok.inj h
      rfl
  obtain ⟨_, _, _, h₁, hrest, rfl⟩ := goes_bind_ok h
  obtain ⟨_, _, _, h₂, h₃, rfl⟩ := goes_bind_ok hrest
  obtain ⟨directory, rfl, hdirectory⟩ := goes_ask h₁
  obtain ⟨compiled, rfl, hcompiled⟩ := goes_ask h₂
  obtain ⟨read, rfl, hread⟩ := goes_ask h₃
  obtain rfl := hok hdirectory
  obtain rfl := hok hcompiled
  obtain rfl := hok hread
  rfl

/-- **An upload that fails is followed by one deletion** of the same object, whatever comes of it.
-/
theorem orderly_share (object : Text) (bytes : List UInt8) :
    Orderly (share object bytes) (· = [.upload object bytes]) own := by
  intro es r h
  obtain _ | ⟨reply, h⟩ := h
  rcases reply with text | _
  · obtain _ | ⟨deleted, _ | _⟩ := h
    exact .inl ⟨[], ⟨.upload object bytes, .error text⟩, [⟨.delete object, deleted⟩], rfl,
      (fun e he => by cases he), rfl, ⟨deleted, rfl⟩, _, rfl, List.prefix_rfl⟩
  · obtain _ | _ := h
    exact ⟨rfl, fun e he => by rw [List.mem_singleton.1 he]; rfl⟩

theorem eq_of_goes_share {object : Text} {bytes : List UInt8} {es : List Event} {u : Unit}
    (h : (share object bytes).Goes es (.ok u)) : es = [⟨.upload object bytes, .ok ()⟩] := by
  obtain _ | ⟨reply, h⟩ := h
  rcases reply with text | _
  · obtain _ | ⟨_, h⟩ := h
    cases h
  · obtain _ | _ := h
    rfl

theorem orderly_print (desk : Desk) (document : TypstDocument) (name : Text)
    (g : List UInt8 → Generated) :
    Orderly (do
      let bytes ← compile document name
      share (desk.objectName name) bytes
      return g bytes) desk.PrintCalls own := by
  refine (orderly_compile document name).bind
    (fun calls => ∃ bytes, calls = [.upload (desk.objectName name) bytes])
    (fun bytes => ?_) (fun p q hp hq => ?_) ⟨_, [], rfl⟩
  · exact ((orderly_share _ bytes).map fun _ => g bytes).mono fun _ h => ⟨bytes, h⟩
  · obtain ⟨bytes, rfl⟩ := hq
    exact ⟨name, document, bytes, by rw [hp]; rfl⟩

theorem exists_finishCalls (desk : Desk) (r : GenerateRequest) :
    ∃ calls, desk.FinishCalls r calls := by
  have hhead : ∃ calls, r.HeadCalls calls := by
    rcases hchoice : r.letterhead with _ | _
    · exact ⟨[], by simp only [GenerateRequest.HeadCalls, hchoice]⟩
    · rcases hid : r.headCompany with _ | id
      · exact ⟨[], by simp only [GenerateRequest.HeadCalls, hchoice, hid]⟩
      · exact ⟨[.company id], by simp only [GenerateRequest.HeadCalls, hchoice, hid, true_or]⟩
  obtain ⟨head, hhead⟩ := hhead
  exact ⟨_, head, _, hhead, ⟨[], ⟨[], []⟩, [], rfl⟩, rfl⟩

/-! ## Requests -/

/-- The calls after those for the records. -/
theorem orderly_finish (desk : Desk) (r : GenerateRequest) (document : Letterhead → TypstDocument)
    (name : Text) (g : List UInt8 → Generated) :
    Orderly (do
      let letterhead ← letterhead r
      let bytes ← compile (document letterhead) name
      share (desk.objectName name) bytes
      return g bytes) (desk.FinishCalls r) own :=
  (orderly_letterhead r).bind desk.PrintCalls (fun _ => orderly_print desk _ name g)
    (fun p q hp hq => ⟨p, q, hp, hq, rfl⟩) ⟨_, [], ⟨[], []⟩, [], rfl⟩

/-- **A request is orderly** on the courses of its plan. -/
theorem orderly_generate (desk : Desk) (occasion : Occasion) (r : GenerateRequest)
    (hinvalid : r.complaints ≠ [] → own (.invalid r.complaints)) (hover : own .overflow) :
    Orderly (desk.generate occasion r) (desk.Plan r) own := by
  obtain ⟨finish, hfinish⟩ := desk.exists_finishCalls r
  refine (orderly_accept hinvalid).bind (desk.Plan r) (fun _ => ?_)
    (fun p q hp hq => by rwa [hp, List.nil_append]) ⟨_, finish, hfinish, rfl⟩
  refine (orderly_template r.template).bind
    (fun calls => ∃ finish, desk.FinishCalls r finish ∧
      calls = r.targets.gathering r.documentType ++ finish)
    (fun template => ?_) (fun p q hp hq => ?_) ⟨_, finish, hfinish, rfl⟩
  · exact (orderly_fillIn desk _ _ _ _ hover).prepend
      (fun rendering => orderly_finish desk r _ _ _) ⟨finish, hfinish⟩
  · obtain ⟨finish, hfinish, rfl⟩ := hq
    exact ⟨finish, hfinish, by rw [hp]; rfl⟩

/-- **A total out of range** is found after the records, when the template is filled in. -/
theorem overflowed_of_goes {desk : Desk} {occasion : Occasion} {r : GenerateRequest}
    (hr : r.complaints = []) {es : List Event}
    (h : (desk.generate occasion r).Goes es (.error .overflow)) :
    desk.Overflowed occasion.today r es := by
  -- no other step than filling in ends with a fault that is not the fault of a reply
  have haccept : Orderly (accept r.complaints) (· = []) fun _ => False := orderly_accept (absurd hr)
  obtain ⟨_, first, _, hfirst, h₁, rfl⟩ := goes_bind_of_overflow haccept h
  obtain ⟨template, _, _, htemplate, h₂, rfl⟩ := goes_bind_of_overflow (orderly_template _) h₁
  obtain rfl := (goes_accept hfirst).1
  obtain rfl := eq_of_goes_template htemplate
  rcases goes_bind h₂ with ⟨fault, hfill, hfault⟩ | ⟨rendering, _, _, _, h₃, rfl⟩
  · obtain rfl := Except.error.inj hfault
    obtain ⟨ctx, hclean, hcalls, hdrawn, hrender⟩ := overflow_of_goes_fillIn hfill
    exact ⟨template, _, ctx, rfl, hclean, hcalls, hdrawn, hrender⟩
  · exact absurd h₃ (orderly_finish desk r _ _ _).not_overflow

/-- **A document is what was compiled, uploaded once.** -/
theorem shared_of_goes {desk : Desk} {occasion : Occasion} {r : GenerateRequest} {es : List Event}
    {g : Generated} (h : (desk.generate occasion r).Goes es (.ok g)) :
    desk.Shared occasion r es g := by
  have hrecords : ∀ content, Orderly
      (desk.fillIn occasion.today r.documentType r.targets content)
      (· = r.targets.gathering r.documentType) fun _ => True :=
    fun content => orderly_fillIn desk _ _ _ content trivial
  have hletterhead : Orderly (letterhead r) r.HeadCalls fun _ => True := orderly_letterhead r
  obtain ⟨_, first, _, hfirst, h₁, rfl⟩ := goes_bind_ok h
  obtain ⟨template, _, _, htemplate, h₂, rfl⟩ := goes_bind_ok h₁
  obtain ⟨rendering, gathered, _, hgathered, h₃, rfl⟩ := goes_bind_ok h₂
  obtain ⟨letterhead, head, _, hhead, h₄, rfl⟩ := goes_bind_ok h₃
  obtain ⟨bytes, _, _, hcompile, h₅, rfl⟩ := goes_bind_ok h₄
  obtain ⟨_, _, _, hshare, h₆, rfl⟩ := goes_bind_ok h₅
  obtain rfl := (goes_accept hfirst).1
  obtain rfl := eq_of_goes_template htemplate
  obtain rfl := eq_of_goes_compile hcompile
  obtain rfl := eq_of_goes_share hshare
  obtain ⟨rfl, hg⟩ := goes_pure h₆
  obtain rfl := Except.ok.inj hg
  exact ⟨template, gathered, head, _, bytes, rfl, (hrecords _ _ _ hgathered).1,
    (hletterhead _ _ hhead).1, rfl⟩

theorem ends_of_goes {desk : Desk} {occasion : Occasion} {r : GenerateRequest} {es : List Event}
    {result : Except DocumentFault Generated} (h : (desk.generate occasion r).Goes es result) :
    desk.Ends occasion r es result := by
  by_cases hr : r.complaints = []
  · have hgenerate : Orderly (desk.generate occasion r) (desk.Plan r) (· = .overflow) :=
      desk.orderly_generate occasion r (absurd hr) rfl
    have hends := hgenerate _ _ h
    rcases result with fault | g
    · rcases hends with hstops | rfl
      · exact .stopped hr hstops
      · exact .overflowed hr (overflowed_of_goes hr h)
    · exact .shared hr hends.2 (shared_of_goes h)
  · rcases goes_bind h with ⟨fault, hfirst, rfl⟩ | ⟨_, _, _, hfirst, _⟩
    · obtain ⟨rfl, hfault⟩ := goes_accept hfirst
      rw [if_neg hr] at hfault
      obtain rfl := Except.error.inj hfault
      exact .refused hr
    · have hfault := (goes_accept hfirst).2
      rw [if_neg hr] at hfault
      cases hfault

/-- A document was asked for after its records. -/
theorem Shared.not_overflowed {desk : Desk} {occasion : Occasion} {r : GenerateRequest}
    {es : List Event} {g : Generated} (h : desk.Shared occasion r es g) :
    ¬ desk.Overflowed occasion.today r es := by
  rintro ⟨_, gathered', _, hes, _, hcalls', _⟩
  obtain ⟨_, gathered, head, _, _, rfl, hcalls, _⟩ := h
  -- both gathered the same calls, and after these one has more to show than the other
  have hlength := congrArg List.length (hcalls.trans hcalls'.symm)
  have hsame := congrArg List.length hes
  simp only [List.length_map, List.length_cons, List.length_append] at hlength hsame
  omega

/-- **There is a document just when every step succeeds.** -/
theorem Ends.ok_iff {desk : Desk} {occasion : Occasion} {r : GenerateRequest} {es : List Event}
    {result : Except DocumentFault Generated} (h : desk.Ends occasion r es result) :
    (∃ g, result = .ok g) ↔
      r.complaints = [] ∧ Clean es ∧ ¬ desk.Overflowed occasion.today r es := by
  obtain hr | ⟨hr, hstops⟩ | ⟨hr, hover⟩ | ⟨hr, hclean, hshared⟩ := h
  · exact ⟨by rintro ⟨_, ⟨⟩⟩, fun h => absurd h.1 hr⟩
  · exact ⟨by rintro ⟨_, ⟨⟩⟩, fun h => absurd h.2.1 hstops.not_clean⟩
  · exact ⟨by rintro ⟨_, ⟨⟩⟩, fun h => absurd hover h.2.2⟩
  · exact ⟨fun _ => ⟨hr, hclean, hshared.not_overflowed⟩, fun _ => ⟨_, rfl⟩⟩

/-- **The protocol of a request**, whatever each call is answered: it ends in one of the four ways,
and with a document just when it is accepted, no call fails and no total is out of range. -/
theorem generate_protocol (desk : Desk) (occasion : Occasion) (r : GenerateRequest) {σ : Type}
    (answer : (c : Call) → σ → c.Reply × σ) (s : σ) :
    let es := (desk.generate occasion r).run.exchanges answer s
    let result := ((desk.generate occasion r).run.run answer s).1
    desk.Ends occasion r es result ∧ ((∃ g, result = .ok g) ↔
      r.complaints = [] ∧ Clean es ∧ ¬ desk.Overflowed occasion.today r es) := by
  intro es result
  have hgoes : (desk.generate occasion r).Goes es result := Procedure.runs_exchanges answer _ s
  have hends := ends_of_goes hgoes
  exact ⟨hends, hends.ok_iff⟩

end Desk

end Conveyance
