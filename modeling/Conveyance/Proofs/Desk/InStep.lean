import Conveyance.Proofs.Desk.Preview

/-!
# Proofs/Desk/InStep — two runs side by side

Two actions are in step when they make the same calls but for the names of files and objects, leave
the same state behind and end alike (`Drafting.InStep`).  **Calls that are answered alike are in step,
and so are actions one after another** (`InStep.bind`); what is answered in the same way is in step
with itself.
-/

namespace Conveyance

/-! ## Without names -/

/-- A call without the names of files and objects. -/
def Call.nameless : Call → Call
  | .compile _ document => .compile [] document
  | .read _ => .read []
  | .upload _ bytes => .upload [] bytes
  | .delete _ => .delete []
  | c => c

/-- A fault without the words of the store, which may hold the name of an object. -/
def DocumentFault.nameless : DocumentFault → DocumentFault
  | .store _ => .store []
  | fault => fault

/-- A document without its name and its address. -/
def Generated.nameless (g : Generated) : Generated := { g with fileName := [], url := [] }

/-! ## In step -/

namespace Drafting

variable {α β γ δ σ : Type} {answer answer' : (c : Call) → σ → c.Reply × σ}

/-- Two ends of one kind: two results that belong together, or the same fault but for the words of
the store. -/
def EndAlike (Q : α → β → Prop) : Except DocumentFault α → Except DocumentFault β → Prop
  | .ok a, .ok b => Q a b
  | .error fault, .error fault' => fault.nameless = fault'.nameless
  | _, _ => False

theorem EndAlike.map_eq {f : α → γ} {g : β → γ} {r : Except DocumentFault α}
    {r' : Except DocumentFault β} (h : EndAlike (fun a b => f a = g b) r r') :
    (r.mapError DocumentFault.nameless).map f = (r'.mapError DocumentFault.nameless).map g := by
  rcases r with fault | a <;> rcases r' with fault' | b
  · exact congrArg Except.error h
  · cases h
  · cases h
  · exact congrArg Except.ok h

/-- Two replies that are the same end alike, whatever fault they are. -/
theorem endAlike_mapError {ε : Type} {wrap : ε → DocumentFault} {R : α → α → Prop}
    (reply : Except ε α) (hR : ∀ a, R a a) :
    EndAlike R (reply.mapError wrap) (reply.mapError wrap) := by
  rcases reply with fault | a
  · exact rfl
  · exact hR a

/-- **Two actions in step**: the same calls but for names, the same state, and ends of one kind. -/
structure InStep (answer answer' : (c : Call) → σ → c.Reply × σ) (Q : α → β → Prop)
    (x : Drafting α) (y : Drafting β) : Prop where
  calls : ∀ s, (x.run.calls answer s).map Call.nameless = (y.run.calls answer' s).map Call.nameless
  state : ∀ s, (x.run.run answer s).2 = (y.run.run answer' s).2
  ends : ∀ s, EndAlike Q (x.run.run answer s).1 (y.run.run answer' s).1

variable {Q : α → β → Prop} {x : Drafting α} {y : Drafting β}

theorem inStep_done {r : Except DocumentFault α} {r' : Except DocumentFault β}
    (h : EndAlike Q r r') :
    InStep answer answer' Q (ExceptT.mk (.done r)) (ExceptT.mk (.done r')) :=
  ⟨fun _ => rfl, fun _ => rfl, fun _ => h⟩

theorem inStep_pure {a : α} {b : β} (h : Q a b) : InStep answer answer' Q (pure a) (pure b) :=
  inStep_done h

/-- **Two calls in step**, after whose answers the rest is in step. -/
theorem inStep_call (c c' : Call) (hc : c.nameless = c'.nameless)
    {next : c.Reply → Errand (Except DocumentFault α)}
    {next' : c'.Reply → Errand (Except DocumentFault β)}
    (h : ∀ s, (answer c s).2 = (answer' c' s).2 ∧
      InStep answer answer' Q (ExceptT.mk (next (answer c s).1))
        (ExceptT.mk (next' (answer' c' s).1))) :
    InStep answer answer' Q (ExceptT.mk (.call c next)) (ExceptT.mk (.call c' next')) := by
  refine ⟨fun s => ?_, fun s => ?_, fun s => ?_⟩
  · change c.nameless :: ((next (answer c s).1).calls answer (answer c s).2).map Call.nameless =
      c'.nameless :: ((next' (answer' c' s).1).calls answer' (answer' c' s).2).map Call.nameless
    rw [hc, ← (h s).1]
    exact congrArg _ ((h s).2.calls _)
  · change ((next (answer c s).1).run answer (answer c s).2).2 =
      ((next' (answer' c' s).1).run answer' (answer' c' s).2).2
    rw [← (h s).1]
    exact (h s).2.state _
  · change EndAlike Q ((next (answer c s).1).run answer (answer c s).2).1
      ((next' (answer' c' s).1).run answer' (answer' c' s).2).1
    rw [← (h s).1]
    exact (h s).2.ends _

/-- **What is answered in the same way is in step with itself.** -/
theorem inStep_self {x : Drafting α} (hx : x.Makes fun c => ∀ s, answer c s = answer' c s) :
    InStep answer answer' (· = ·) x x := by
  have hrun : ∀ s, x.run.run answer s = x.run.run answer' s ∧
      x.run.calls answer s = x.run.calls answer' s := fun s =>
    Procedure.run_congr x.run s fun c hc => hx.of_mem_calls hc
  refine ⟨fun s => by rw [(hrun s).2], fun s => by rw [(hrun s).1], fun s => ?_⟩
  rw [(hrun s).1]
  rcases (x.run.run answer' s).1 with fault | a
  · exact rfl
  · exact rfl

theorem inStep_ask (c c' : Call) (hc : c.nameless = c'.nameless)
    {decide : c.Reply → Except DocumentFault α} {decide' : c'.Reply → Except DocumentFault β}
    (h : ∀ s, (answer c s).2 = (answer' c' s).2 ∧
      EndAlike Q (decide (answer c s).1) (decide' (answer' c' s).1)) :
    InStep answer answer' Q (ask c decide) (ask c' decide') :=
  inStep_call c c' hc fun s => ⟨(h s).1, inStep_done (h s).2⟩

/-- **One action after another stays in step.** -/
theorem InStep.bind {R : γ → δ → Prop} {f : α → Drafting γ} {g : β → Drafting δ}
    (hx : InStep answer answer' Q x y) (hf : ∀ a b, Q a b → InStep answer answer' R (f a) (g b)) :
    InStep answer answer' R (x >>= f) (y >>= g) := by
  have hall : ∀ s, ((x >>= f).run.calls answer s).map Call.nameless =
        ((y >>= g).run.calls answer' s).map Call.nameless ∧
      ((x >>= f).run.run answer s).2 = ((y >>= g).run.run answer' s).2 ∧
      EndAlike R ((x >>= f).run.run answer s).1 ((y >>= g).run.run answer' s).1 := by
    intro s
    have hcalls := hx.calls s
    have hstate := hx.state s
    have hends := hx.ends s
    rcases hresult : x.run.run answer s with ⟨fault | a, s₁⟩ <;>
      rcases hresult' : y.run.run answer' s with ⟨fault' | b, s₂⟩ <;>
      rw [hresult, hresult'] at hends hstate <;> obtain rfl : s₁ = s₂ := hstate
    · rw [calls_bind_error hresult, calls_bind_error hresult', run_bind_error hresult,
        run_bind_error hresult']
      exact ⟨hcalls, rfl, hends⟩
    · cases hends
    · cases hends
    · have hnext := hf a b hends
      rw [calls_bind_ok hresult, calls_bind_ok hresult', run_bind_ok hresult, run_bind_ok hresult',
        List.map_append, List.map_append, hcalls]
      exact ⟨congrArg _ (hnext.calls _), hnext.state _, hnext.ends _⟩
  exact ⟨fun s => (hall s).1, fun s => (hall s).2.1, fun s => (hall s).2.2⟩

end Drafting

end Conveyance
