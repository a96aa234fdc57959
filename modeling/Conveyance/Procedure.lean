/-!
# Procedure — courses of action that call on others

A `Procedure` either is done or makes one call and goes on with the reply.  It says nothing about how
calls are answered: `Procedure.run` takes the answers from outside, with a state of their own, and
`Procedure.calls` lists the calls that are made on the way.  So **what a procedure does under every
behaviour of those it calls on** is a statement about one value.
-/

namespace Conveyance

/-- A course of action that makes calls and ends with a result. -/
inductive Procedure (Call : Type) (Reply : Call → Type) (α : Type) where
  | done (result : α)
  | call (c : Call) (next : Reply c → Procedure Call Reply α)

namespace Procedure

variable {Call : Type} {Reply : Call → Type} {α β σ : Type}

/-- One procedure after another. -/
def bind : Procedure Call Reply α → (α → Procedure Call Reply β) → Procedure Call Reply β
  | done a, f => f a
  | call c next, f => call c fun reply => (next reply).bind f

instance : Monad (Procedure Call Reply) where
  pure := done
  bind := bind

/-- **The result of a procedure** whose calls are answered from a state. -/
def run (answer : (c : Call) → σ → Reply c × σ) : Procedure Call Reply α → σ → α × σ
  | done a, s => (a, s)
  | call c next, s => (next (answer c s).1).run answer (answer c s).2

/-- The calls that a procedure makes, in order. -/
def calls (answer : (c : Call) → σ → Reply c × σ) : Procedure Call Reply α → σ → List Call
  | done _, _ => []
  | call c next, s => c :: (next (answer c s).1).calls answer (answer c s).2

theorem run_bind (answer : (c : Call) → σ → Reply c × σ) (p : Procedure Call Reply α)
    (f : α → Procedure Call Reply β) (s : σ) :
    (p.bind f).run answer s = (f (p.run answer s).1).run answer (p.run answer s).2 := by
  induction p generalizing s with
  | done a => rfl
  | call c next ih => exact ih _ _

theorem calls_bind (answer : (c : Call) → σ → Reply c × σ) (p : Procedure Call Reply α)
    (f : α → Procedure Call Reply β) (s : σ) :
    (p.bind f).calls answer s =
      p.calls answer s ++ (f (p.run answer s).1).calls answer (p.run answer s).2 := by
  induction p generalizing s with
  | done a => rfl
  | call c next ih => exact congrArg (c :: ·) (ih _ _)

end Procedure

end Conveyance
