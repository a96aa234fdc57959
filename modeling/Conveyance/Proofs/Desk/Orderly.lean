import Conveyance.Desk.Generate
import Conveyance.Proofs.Exchange
import Mathlib.Data.List.Basic

/-!
# Proofs/Desk/Orderly — actions that stop at the first call that fails

`Call.fault?` is the fault that a reply ends a request with.  An action is `Orderly` for some
courses of calls when it makes all the calls of one of them, none failing, or **stops at the first
call that fails with the fault of that call**; it may also end with a fault of its own, without
having failed before.  A question to the registry is orderly, and so are orderly actions one after
another (`Orderly.bind`).
-/

namespace Conveyance

instance : (c : Call) → DecidableEq c.Reply
  | .template _ => inferInstanceAs (DecidableEq (Except Text (Option Template)))
  | .client _ => inferInstanceAs (DecidableEq (Except Text (Option Client)))
  | .project _ => inferInstanceAs (DecidableEq (Except Text (Option Project)))
  | .flat _ => inferInstanceAs (DecidableEq (Except Text (Option Flat)))
  | .company _ => inferInstanceAs (DecidableEq (Except Text (Option Company)))
  | .milestones _ => inferInstanceAs (DecidableEq (Except Text (List Milestone)))
  | .schedules _ => inferInstanceAs (DecidableEq (Except Text (List Schedule)))
  | .requests _ => inferInstanceAs (DecidableEq (Except Text (List PaymentRequest)))
  | .receipts _ => inferInstanceAs (DecidableEq (Except Text (List PaymentReceipt)))
  | .pending _ => inferInstanceAs (DecidableEq (Except Text (List PendingPayment)))
  | .request _ => inferInstanceAs (DecidableEq (Except Text (Option PaymentRequest)))
  | .receipt _ => inferInstanceAs (DecidableEq (Except Text (Option PaymentReceipt)))
  | .image _ | .read _ => inferInstanceAs (DecidableEq (Except FileFault (List UInt8)))
  | .workDirectory => inferInstanceAs (DecidableEq (Except FileFault Unit))
  | .compile .. => inferInstanceAs (DecidableEq (Except CompileFault Unit))
  | .upload .. | .delete _ => inferInstanceAs (DecidableEq (Except Text Unit))

/-- A call of the desk with its reply. -/
abbrev Event := Procedure.Exchange Call Call.Reply

instance : DecidableEq Event := fun ⟨c, reply⟩ ⟨c', reply'⟩ =>
  if h : c = c' then
    match c', h, reply' with
    | _, rfl, reply' => decidable_of_iff (reply = reply') (by simp)
  else .isFalse fun heq => h (Procedure.Exchange.mk.inj heq).1

/-! ## Faults -/

namespace Call

/-- The fault of an answer that reports a failure. -/
def failure? {ε α : Type} (fault : ε → DocumentFault) : Except ε α → Option DocumentFault
  | .ok _ => none
  | .error e => some (fault e)

theorem exists_of_failure? {ε α : Type} {wrap : ε → DocumentFault} {reply : Except ε α}
    {fault : DocumentFault} (h : failure? wrap reply = some fault) : ∃ e, fault = wrap e := by
  rcases reply with e | a
  · exact ⟨e, (Option.some.inj h).symm⟩
  · cases h

/-- **The fault that a reply ends a request with.**  An image that cannot be read and an object that
cannot be removed end none. -/
def fault? : (c : Call) → c.Reply → Option DocumentFault
  | .template _, .error text => some (.records text)
  | .template id, .ok none => some (.noTemplate id)
  | .template _, .ok (some _) => none
  | .client _, reply => failure? .records reply
  | .project _, reply => failure? .records reply
  | .flat _, reply => failure? .records reply
  | .company _, reply => failure? .records reply
  | .milestones _, reply => failure? .records reply
  | .schedules _, reply => failure? .records reply
  | .requests _, reply => failure? .records reply
  | .receipts _, reply => failure? .records reply
  | .pending _, reply => failure? .records reply
  | .request _, reply => failure? .records reply
  | .receipt _, reply => failure? .records reply
  | .image _, _ => none
  | .workDirectory, reply => failure? .workDirectory reply
  | .compile _ _, reply => failure? .compile reply
  | .read _, reply => failure? .read reply
  | .upload _ _, reply => failure? .store reply
  | .delete _, _ => none

/-- No call is to blame for a total out of range. -/
theorem fault?_ne_overflow (c : Call) (reply : c.Reply) : c.fault? reply ≠ some .overflow := by
  intro h
  cases c
  case template => rcases reply with text | (_ | found) <;> cases h
  case image => cases h
  case delete => cases h
  all_goals
    obtain ⟨_, hfault⟩ := exists_of_failure? h
    cases hfault

end Call

namespace Event

/-- The fault of a reply. -/
def fault? (e : Event) : Option DocumentFault := e.call.fault? e.reply

/-- What follows a call that failed: what an upload may have left is deleted, and nothing else is
done. -/
def Followed (e : Event) (after : List Event) : Prop :=
  match e.call with
  | .upload object _ => ∃ reply, after = [⟨.delete object, reply⟩]
  | _ => after = []

end Event

/-- No call fails. -/
def Clean (es : List Event) : Prop := ∀ e ∈ es, e.fault? = none

instance (es : List Event) : Decidable (Clean es) :=
  inferInstanceAs (Decidable (∀ e ∈ es, e.fault? = none))

namespace Drafting

variable {α β : Type}

/-! ## What may happen -/

/-- What may happen in an action: its exchanges, and how it ends. -/
def Goes (x : Drafting α) (es : List Event) (r : Except DocumentFault α) : Prop :=
  Procedure.Runs x.run es r

theorem goes_pure {a : α} {es : List Event} {r : Except DocumentFault α}
    (h : (pure a : Drafting α).Goes es r) : es = [] ∧ r = .ok a := by
  obtain _ | _ := h
  exact ⟨rfl, rfl⟩

theorem goes_throw {fault : DocumentFault} {es : List Event} {r : Except DocumentFault α}
    (h : (throw fault : Drafting α).Goes es r) : es = [] ∧ r = .error fault := by
  obtain _ | _ := h
  exact ⟨rfl, rfl⟩

theorem goes_ask {c : Call} {decide : c.Reply → Except DocumentFault α} {es : List Event}
    {r : Except DocumentFault α} (h : (ask c decide).Goes es r) :
    ∃ reply, es = [⟨c, reply⟩] ∧ r = decide reply := by
  obtain _ | ⟨reply, _ | _⟩ := h
  exact ⟨reply, rfl, rfl⟩

/-- **One action after another**: the first one ends with a fault, or both are carried out. -/
theorem goes_bind {x : Drafting α} {f : α → Drafting β} {es : List Event}
    {r : Except DocumentFault β} (h : (x >>= f).Goes es r) :
    (∃ fault, x.Goes es (.error fault) ∧ r = .error fault) ∨
      ∃ a first rest, x.Goes first (.ok a) ∧ (f a).Goes rest r ∧ es = first ++ rest := by
  have hbind : (x.run.bind (ExceptT.bindCont f)).Runs es r := h
  obtain ⟨result, first, rest, hx, hf, rfl⟩ := hbind.of_bind
  rcases result with fault | a
  · obtain _ | _ := hf
    exact .inl ⟨fault, by rwa [List.append_nil], rfl⟩
  · exact .inr ⟨a, first, rest, hx, hf, rfl⟩

theorem goes_bind_ok {x : Drafting α} {f : α → Drafting β} {es : List Event} {b : β}
    (h : (x >>= f).Goes es (.ok b)) :
    ∃ a first rest, x.Goes first (.ok a) ∧ (f a).Goes rest (.ok b) ∧ es = first ++ rest := by
  rcases goes_bind h with ⟨_, _, hr⟩ | h
  · cases hr
  · exact h

/-! ## Orderly actions -/

/-- **Stopping at the first call that fails**, on the course that was taken. -/
def Stops (course : List Call → Prop) (es : List Event) (fault : DocumentFault) : Prop :=
  ∃ before e after, es = before ++ e :: after ∧ Clean before ∧ e.fault? = some fault ∧
    e.Followed after ∧ ∃ calls, course calls ∧ (before ++ [e]).map (·.call) <+: calls

/-- **An orderly action**, which makes the calls of a course, stops at the first that fails, or ends
with a fault of its own. -/
def Orderly (x : Drafting α) (course : List Call → Prop) (own : DocumentFault → Prop) : Prop :=
  ∀ es r, x.Goes es r → match r with
    | .ok _ => course (es.map (·.call)) ∧ Clean es
    | .error fault => Stops course es fault ∨ own fault

variable {course course' : List Call → Prop} {own : DocumentFault → Prop} {x : Drafting α}

theorem Stops.not_clean {es : List Event} {fault : DocumentFault} (h : Stops course es fault) :
    ¬ Clean es := by
  obtain ⟨before, e, after, rfl, -, hfault, -⟩ := h
  intro hclean
  have hnone := hclean e (List.mem_append_right _ List.mem_cons_self)
  rw [hfault] at hnone
  cases hnone

theorem orderly_pure (a : α) : Orderly (pure a) (· = []) own := by
  intro es r h
  obtain ⟨rfl, rfl⟩ := goes_pure h
  exact ⟨rfl, fun e he => by cases he⟩

theorem orderly_throw {fault : DocumentFault} (h : own fault) :
    Orderly (throw fault : Drafting α) course own := by
  intro es r hgoes
  obtain ⟨rfl, rfl⟩ := goes_throw hgoes
  exact .inr h

/-- One call is orderly when its reply ends the action with the fault of the reply. -/
theorem orderly_ask {c : Call} {decide : c.Reply → Except DocumentFault α}
    (hfollowed : ∀ reply, Event.Followed ⟨c, reply⟩ [])
    (h : ∀ reply, c.fault? reply = Call.failure? id (decide reply)) :
    Orderly (ask c decide) (· = [c]) own := by
  intro es r hgoes
  obtain ⟨reply, rfl, rfl⟩ := goes_ask hgoes
  have hreply := h reply
  rcases hdecide : decide reply with fault | a
  · rw [hdecide] at hreply
    exact .inl ⟨[], _, [], rfl, (fun e he => by cases he), hreply, hfollowed reply, [c], rfl,
      List.prefix_rfl⟩
  · rw [hdecide] at hreply
    exact ⟨rfl, fun e he => by rw [List.mem_singleton.1 he]; exact hreply⟩

/-- The same action on more courses. -/
theorem Orderly.mono (hx : Orderly x course own) (h : ∀ calls, course calls → course' calls) :
    Orderly x course' own := by
  intro es r hgoes
  have hends := hx es r hgoes
  rcases r with fault | a
  · refine hends.imp_left ?_
    rintro ⟨before, e, after, hes, hclean, hfault, hafter, calls, hcalls, hprefix⟩
    exact ⟨before, e, after, hes, hclean, hfault, hafter, calls, h calls hcalls, hprefix⟩
  · exact ⟨h _ hends.1, hends.2⟩

/-- **Orderly actions one after another** are orderly: the calls of the first come first, and when
it stops those of the second are not made. -/
theorem Orderly.bind {f : α → Drafting β} {course₁ : List Call → Prop}
    (hx : Orderly x course₁ own) (course₂ : List Call → Prop)
    (hf : ∀ a, Orderly (f a) course₂ own)
    (hcourse : ∀ p q, course₁ p → course₂ q → course (p ++ q)) (hmore : ∃ q, course₂ q) :
    Orderly (x >>= f) course own := by
  intro es r h
  rcases goes_bind h with ⟨fault, hx', rfl⟩ | ⟨a, first, rest, hx', hf', rfl⟩
  · -- the first action stops; any course of the second completes the one it was on
    refine (hx es _ hx').imp_left ?_
    rintro ⟨before, e, after, hes, hclean, hfault, hafter, p, hp, hprefix⟩
    obtain ⟨q, hq⟩ := hmore
    exact ⟨before, e, after, hes, hclean, hfault, hafter, p ++ q, hcourse p q hp hq,
      hprefix.trans (List.prefix_append p q)⟩
  · -- the first action fails nowhere, so what the second stops at is the first failure of both
    obtain ⟨hp, hfirst⟩ := hx first _ hx'
    have hends := hf a rest r hf'
    rcases r with fault | b
    · refine hends.imp_left ?_
      rintro ⟨before, e, after, rfl, hclean, hfault, hafter, q, hq, hprefix⟩
      refine ⟨first ++ before, e, after, by simp, List.forall_mem_append.2 ⟨hfirst, hclean⟩,
        hfault, hafter, _, hcourse _ q hp hq, ?_⟩
      rw [List.append_assoc, List.map_append]
      exact (List.prefix_append_right_inj _).2 hprefix
    · rw [List.map_append]
      exact ⟨hcourse _ _ hp hends.1, List.forall_mem_append.2 ⟨hfirst, hends.2⟩⟩

/-- One course after another. -/
theorem Orderly.append {f : α → Drafting β} {p q : List Call} (hx : Orderly x (· = p) own)
    (hf : ∀ a, Orderly (f a) (· = q) own) : Orderly (x >>= f) (· = p ++ q) own :=
  hx.bind _ hf (fun _ _ hp hq => by rw [hp, hq]) ⟨q, rfl⟩

/-- One course, and then several. -/
theorem Orderly.prepend {f : α → Drafting β} {p : List Call} (hx : Orderly x (· = p) own)
    (hf : ∀ a, Orderly (f a) course own) (hmore : ∃ q, course q) :
    Orderly (x >>= f) (fun calls => ∃ q, course q ∧ calls = p ++ q) own :=
  hx.bind course hf (fun _ q hp hq => ⟨q, hq, by rw [hp]⟩) hmore

/-- What is made of the result makes no calls. -/
theorem Orderly.map (hx : Orderly x course own) (g : α → β) :
    Orderly (x >>= fun a => pure (g a)) course own :=
  hx.bind (· = []) (fun a => orderly_pure (g a)) (fun p q hp hq => by rwa [hq, List.append_nil])
    ⟨[], rfl⟩

theorem Orderly.not_overflow (hx : Orderly x course fun _ => False) {es : List Event} :
    ¬ x.Goes es (.error .overflow) := by
  intro h
  obtain ⟨_, e, _, -, -, hfault, -⟩ := (hx es _ h).resolve_right id
  exact e.call.fault?_ne_overflow e.reply hfault

/-- Where no fault of its own ends the first action, a total out of range comes from the second. -/
theorem goes_bind_of_overflow {f : α → Drafting β} (hx : Orderly x course fun _ => False)
    {es : List Event} (h : (x >>= f).Goes es (.error .overflow)) :
    ∃ a first rest, x.Goes first (.ok a) ∧ (f a).Goes rest (.error .overflow) ∧
      es = first ++ rest := by
  rcases goes_bind h with ⟨fault, hx', hfault⟩ | h
  · obtain rfl := Except.error.inj hfault
    exact absurd hx' hx.not_overflow
  · exact h

/-! ## Questions -/

/-- A question to the registry, where there is one, and what is taken instead where there is none.
-/
def consult {ι : Type} (blank : α) (at? : Option ι) (c : ι → Call)
    (answer : ∀ i, (c i).Reply → Except Text α) : Drafting α :=
  match at? with
  | some i => look (c i) (answer i)
  | none => pure blank

theorem lookUp_eq_consult (id? : Option Int) (c : Int → Call)
    (answer : ∀ n, (c n).Reply → Except Text (Option α)) :
    lookUp id? c answer = consult none id? c answer := by
  rcases id? with _ | n <;> rfl

theorem list_eq_consult (id? : Option Int) (c : Int → Call)
    (answer : ∀ n, (c n).Reply → Except Text (List α)) :
    list id? c answer = consult [] id? c answer := by
  rcases id? with _ | n <;> rfl

/-- **Questions to the registry**, which end an action with the failure of the registry. -/
structure IsLookup {ι : Type} (c : ι → Call) (answer : ∀ i, (c i).Reply → Except Text α) :
    Prop where
  followed : ∀ i reply, Event.Followed ⟨c i, reply⟩ [] := by intros; rfl
  fault?_eq : ∀ i reply, (c i).fault? reply = Call.failure? .records (answer i reply) := by
    intros; rfl

/-- **A question to the registry is one call**, or none. -/
theorem IsLookup.orderly_consult {ι : Type} {c : ι → Call}
    {answer : ∀ i, (c i).Reply → Except Text α} (hc : IsLookup c answer) (blank : α)
    (at? : Option ι) : Orderly (consult blank at? c answer) (· = at?.toList.map c) own := by
  rcases at? with _ | i
  · exact orderly_pure blank
  · refine orderly_ask (hc.followed i) fun reply => ?_
    rw [hc.fault?_eq i reply]
    rcases answer i reply with text | a <;> rfl

theorem IsLookup.orderly_lookUp {c : Int → Call}
    {answer : ∀ n, (c n).Reply → Except Text (Option α)} (hc : IsLookup c answer)
    (id? : Option Int) : Orderly (lookUp id? c answer) (· = id?.toList.map c) own := by
  rw [lookUp_eq_consult]
  exact hc.orderly_consult none id?

theorem IsLookup.orderly_list {c : Int → Call}
    {answer : ∀ n, (c n).Reply → Except Text (List α)} (hc : IsLookup c answer)
    (id? : Option Int) : Orderly (list id? c answer) (· = id?.toList.map c) own := by
  rw [list_eq_consult]
  exact hc.orderly_consult [] id?

end Drafting

end Conveyance
