import Conveyance.Proofs.Exchange

/-!
# Proofs/Unfolding — a course of action, state by state

`Procedure.run` has one answer for every call.  `Procedure.Unfolds` has several, failures among them:
`may` says which replies a call may get in a state and in which state it leaves things, and a `Moment`
is an exchange with the states around it.  **What holds of every unfolding holds whatever goes wrong on
the way**; those of two procedures one after the other are an unfolding of the first and then one of the
second (`Unfolds.of_bind`).
-/

namespace Conveyance.Procedure

/-- An exchange, and the states before and after it. -/
structure Moment (Call : Type) (Reply : Call → Type) (σ : Type) extends Exchange Call Reply where
  before : σ
  after : σ

variable {Call : Type} {Reply : Call → Type} {α β σ : Type}
  {may : (c : Call) → σ → Reply c → σ → Prop} {ms : List (Moment Call Reply σ)} {s s' : σ}

/-- **What may happen in a procedure**, when each call may be answered in several ways. -/
inductive Unfolds (may : (c : Call) → σ → Reply c → σ → Prop) :
    Procedure Call Reply α → σ → List (Moment Call Reply σ) → α → σ → Prop where
  | done (a : α) (s : σ) : Unfolds may (done a) s [] a s
  | call {c : Call} {next : Reply c → Procedure Call Reply α} {s s₁ s' : σ} {reply : Reply c}
      {ms : List (Moment Call Reply σ)} {a : α} (hreply : may c s reply s₁)
      (hrest : Unfolds may (next reply) s₁ ms a s') :
      Unfolds may (call c next) s (⟨⟨c, reply⟩, s, s₁⟩ :: ms) a s'

theorem Unfolds.of_done {a b : α} (h : (Procedure.done a).Unfolds may s ms b s') :
    ms = [] ∧ b = a ∧ s' = s := by
  obtain _ | _ := h
  exact ⟨rfl, rfl, rfl⟩

theorem Unfolds.of_call {c : Call} {next : Reply c → Procedure Call Reply α} {a : α}
    (h : (Procedure.call c next).Unfolds may s ms a s') :
    ∃ reply s₁ rest, may c s reply s₁ ∧ (next reply).Unfolds may s₁ rest a s' ∧
      ms = ⟨⟨c, reply⟩, s, s₁⟩ :: rest := by
  obtain _ | ⟨hreply, hrest⟩ := h
  exact ⟨_, _, _, hreply, hrest, rfl⟩

/-- **One procedure after another** unfolds in two parts. -/
theorem Unfolds.of_bind {p : Procedure Call Reply α} {f : α → Procedure Call Reply β} {b : β}
    (h : (p.bind f).Unfolds may s ms b s') :
    ∃ a first s₁ rest, p.Unfolds may s first a s₁ ∧ (f a).Unfolds may s₁ rest b s' ∧
      ms = first ++ rest := by
  induction p generalizing s ms with
  | done a => exact ⟨a, [], s, ms, .done a s, h, rfl⟩
  | call c next ih =>
    obtain ⟨reply, s₁, ms, hreply, hnext, rfl⟩ := Unfolds.of_call h
    obtain ⟨a, first, s₂, rest, hfirst, hrest, rfl⟩ := ih reply hnext
    exact ⟨a, _, s₂, rest, .call hreply hfirst, hrest, rfl⟩

/-- Only calls that may be asked for are made. -/
theorem Unfolds.of_asks {allowed : Call → Prop} {p : Procedure Call Reply α} {a : α}
    (h : p.Unfolds may s ms a s') (hp : p.Asks allowed) : ∀ m ∈ ms, allowed m.call := by
  induction h with
  | done => exact nofun
  | call _ _ ih => exact List.forall_mem_cons.2 ⟨hp.1, ih (hp.2 _)⟩

end Conveyance.Procedure
