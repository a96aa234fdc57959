import Conveyance.Procedure

/-!
# Proofs/Exchange — what happens in a procedure, call by call

An `Exchange` is a call with its reply, and `Procedure.exchanges` lists those of one run.
`Procedure.Runs` says which exchanges and results are possible **whatever the replies are**; every
run is one of these (`runs_exchanges`), and those of two procedures one after the other are a run of
the first and then a run of the second (`Runs.of_bind`).  Two runs `Agree` when equal calls got equal
replies in them, and are then the same (`Runs.eq_of_agree`).  `Procedure.Asks` bounds the calls that may
be made, and `Procedure.outcome` is the result when all calls are answered by **what is held, the same
at any time** (`run_eq_outcome`).
-/

namespace Conveyance.Procedure

/-- A call and the reply to it. -/
structure Exchange (Call : Type) (Reply : Call → Type) where
  call : Call
  reply : Reply call

variable {Call : Type} {Reply : Call → Type} {α β σ : Type}

theorem bind_done (p : Procedure Call Reply α) : p.bind done = p := by
  induction p with
  | done a => rfl
  | call c next ih => exact congrArg (call c) (funext ih)

/-- Of three procedures, the last two may be taken together. -/
theorem bind_bind {γ : Type} (p : Procedure Call Reply α) (f : α → Procedure Call Reply β)
    (g : β → Procedure Call Reply γ) : (p.bind f).bind g = p.bind fun a => (f a).bind g := by
  induction p with
  | done a => rfl
  | call c next ih => exact congrArg (call c) (funext ih)

instance : LawfulMonad (Procedure Call Reply) :=
  LawfulMonad.mk' _ bind_done (fun _ _ => rfl) bind_bind

/-- **The exchanges of a procedure** whose calls are answered from a state. -/
def exchanges (answer : (c : Call) → σ → Reply c × σ) :
    Procedure Call Reply α → σ → List (Exchange Call Reply)
  | done _, _ => []
  | call c next, s =>
    ⟨c, (answer c s).1⟩ :: (next (answer c s).1).exchanges answer (answer c s).2

/-- The calls of the exchanges are the calls that are made. -/
theorem map_call_exchanges (answer : (c : Call) → σ → Reply c × σ) (p : Procedure Call Reply α)
    (s : σ) : (p.exchanges answer s).map Exchange.call = p.calls answer s := by
  induction p generalizing s with
  | done a => rfl
  | call c next ih => exact congrArg (c :: ·) (ih _ _)

/-- Every reply is an answer, given at some moment. -/
theorem exists_reply_eq {answer : (c : Call) → σ → Reply c × σ} {p : Procedure Call Reply α} {s : σ}
    {e : Exchange Call Reply} (h : e ∈ p.exchanges answer s) :
    ∃ s', e.reply = (answer e.call s').1 := by
  induction p generalizing s with
  | done a => cases h
  | call c next ih =>
    rcases List.mem_cons.1 h with rfl | h
    · exact ⟨s, rfl⟩
    · exact ih _ h

/-- **Answers that are the same for every call that is made** lead to the same run. -/
theorem run_congr {answer answer' : (c : Call) → σ → Reply c × σ} (p : Procedure Call Reply α) (s : σ)
    (h : ∀ c ∈ p.calls answer s, ∀ s, answer c s = answer' c s) :
    p.run answer s = p.run answer' s ∧ p.calls answer s = p.calls answer' s := by
  induction p generalizing s with
  | done a => exact ⟨rfl, rfl⟩
  | call c next ih =>
    have hc : answer c s = answer' c s := h c List.mem_cons_self s
    have hnext := ih _ _ fun c' hc' => h c' (List.mem_cons_of_mem c hc')
    rw [run, run, calls, calls, ← hc]
    exact ⟨hnext.1, congrArg (c :: ·) hnext.2⟩

/-- **What may happen in a procedure**: its exchanges, with any replies, and its result. -/
inductive Runs : Procedure Call Reply α → List (Exchange Call Reply) → α → Prop where
  | done (a : α) : Runs (done a) [] a
  | call {c : Call} {next : Reply c → Procedure Call Reply α} (reply : Reply c)
      {es : List (Exchange Call Reply)} {a : α} (h : Runs (next reply) es a) :
      Runs (call c next) (⟨c, reply⟩ :: es) a

/-- Whatever answers there are, what happens is possible. -/
theorem runs_exchanges (answer : (c : Call) → σ → Reply c × σ) (p : Procedure Call Reply α)
    (s : σ) : p.Runs (p.exchanges answer s) (p.run answer s).1 := by
  induction p generalizing s with
  | done a => exact .done a
  | call c next ih => exact .call _ (ih _ _)

/-- **One procedure after another** runs in two parts. -/
theorem Runs.of_bind {p : Procedure Call Reply α} {f : α → Procedure Call Reply β}
    {es : List (Exchange Call Reply)} {b : β} (h : (p.bind f).Runs es b) :
    ∃ a first rest, p.Runs first a ∧ (f a).Runs rest b ∧ es = first ++ rest := by
  induction p generalizing es with
  | done a => exact ⟨a, [], es, .done a, h, rfl⟩
  | call c next ih =>
    obtain _ | ⟨reply, h⟩ := h
    obtain ⟨a, first, rest, hfirst, hrest, rfl⟩ := ih reply h
    exact ⟨a, ⟨c, reply⟩ :: first, rest, .call reply hfirst, hrest, rfl⟩

/-! ## Equal replies -/

/-- **Equal calls have got equal replies**, here and there. -/
def Agree (es es' : List (Exchange Call Reply)) : Prop :=
  ∀ e ∈ es, ∀ e' ∈ es', e.call = e'.call → e = e'

section Agree

variable {e e' : Exchange Call Reply} {es es' fs fs' : List (Exchange Call Reply)}

theorem Agree.mono (h : Agree fs fs') (hes : es ⊆ fs) (hes' : es' ⊆ fs') : Agree es es' :=
  fun e he e' he' => h e (hes he) e' (hes' he')

theorem Agree.head (h : Agree (e :: es) (e' :: es')) (hcall : e.call = e'.call) : e = e' :=
  h e List.mem_cons_self e' List.mem_cons_self hcall

theorem Agree.tail (h : Agree (e :: es) (e' :: es')) : Agree es es' :=
  h.mono (List.subset_cons_self e es) (List.subset_cons_self e' es')

/-- **Equal replies lead to the same run.** -/
theorem Runs.eq_of_agree {p : Procedure Call Reply α} {a a' : α} (h : p.Runs es a)
    (h' : p.Runs es' a') (hagree : Agree es es') : es = es' ∧ a = a' := by
  induction h generalizing es' with
  | done a =>
    obtain _ | _ := h'
    exact ⟨rfl, rfl⟩
  | @call c next reply es a _ ih =>
    obtain _ | ⟨reply', h'⟩ := h'
    have heq : (⟨c, reply⟩ : Exchange Call Reply) = ⟨c, reply'⟩ := hagree.head rfl
    obtain rfl : reply = reply' := eq_of_heq (Exchange.mk.inj heq).2
    obtain ⟨rfl, rfl⟩ := ih h' hagree.tail
    exact ⟨rfl, rfl⟩

end Agree

instance [DecidableEq Call] [DecidableEq (Exchange Call Reply)] (es es' : List (Exchange Call Reply)) :
    Decidable (Agree es es') :=
  inferInstanceAs (Decidable (∀ e ∈ es, ∀ e' ∈ es', e.call = e'.call → e = e'))

/-! ## What is asked -/

/-- **Every call that may be made is allowed**, whatever the replies are. -/
def Asks (allowed : Call → Prop) : Procedure Call Reply α → Prop
  | done _ => True
  | call c next => allowed c ∧ ∀ reply, (next reply).Asks allowed

theorem Asks.mono {allowed allowed' : Call → Prop} {p : Procedure Call Reply α} (hp : p.Asks allowed)
    (h : ∀ c, allowed c → allowed' c) : p.Asks allowed' := by
  induction p with
  | done a => trivial
  | call c next ih => exact ⟨h c hp.1, fun reply => ih reply (hp.2 reply)⟩

theorem Asks.bind {allowed : Call → Prop} {p : Procedure Call Reply α} (hp : p.Asks allowed)
    {f : α → Procedure Call Reply β} (hf : ∀ a, (f a).Asks allowed) : (p.bind f).Asks allowed := by
  induction p with
  | done a => exact hf a
  | call c next ih => exact ⟨hp.1, fun reply => ih reply (hp.2 reply)⟩

/-! ## What is held -/

/-- **The result of a procedure** whose calls are all answered by what is held. -/
def outcome (held : (c : Call) → Reply c) : Procedure Call Reply α → α
  | done a => a
  | call c next => (next (held c)).outcome held

theorem outcome_bind {held : (c : Call) → Reply c} (p : Procedure Call Reply α)
    (f : α → Procedure Call Reply β) : (p.bind f).outcome held = (f (p.outcome held)).outcome held := by
  induction p with
  | done a => rfl
  | call c next ih => exact ih _

/-- **Where every call that is made is answered by what is held**, the result is that of what is
held, and the state stays as it is. -/
theorem run_eq_outcome {held : (c : Call) → Reply c} {answer : (c : Call) → σ → Reply c × σ}
    (p : Procedure Call Reply α) (s : σ)
    (h : ∀ c ∈ p.calls answer s, ∀ s, answer c s = (held c, s)) :
    p.run answer s = (p.outcome held, s) := by
  induction p with
  | done a => rfl
  | call c next ih =>
    have hc : answer c s = (held c, s) := h c List.mem_cons_self s
    have hnext : ∀ c' ∈ (next (answer c s).1).calls answer (answer c s).2,
        ∀ s, answer c' s = (held c', s) := fun c' hc' => h c' (List.mem_cons_of_mem c hc')
    rw [hc] at hnext
    rw [run, hc]
    exact ih _ hnext

end Conveyance.Procedure
