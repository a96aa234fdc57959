import Conveyance.Proofs.Checked.Blocks
import Conveyance.Proofs.Checked.Fields
import Conveyance.Proofs.Resolve.Overflow
import Conveyance.Typst.Document

/-!
# Proofs/Checked/Rendering — a document drawn with every step looked at

From a template to the source of a document, every cut of a text, every look-up by a place and every
sum is looked at here.  **Only a total fails**: drawing a document ends with a fault exactly when
the template asks for a total whose running sum leaves the range of decimals, and the fault is that
one; otherwise it gives what `renderTemplate?` and `Typst.document` give
(`drawChecked_fails_only_on_totals`).
-/

namespace Conveyance

open ListingEntry (braced)

variable (f : Format) (ctx : Context) (template : Text)

/-- A template filled in, its tokens found and resolved step by step. -/
def renderChecked : Checked Text := do
  let tokens ← Token.scanBytes template
  let filling ← tokens.foldlM (fun (s : Filling) (token : Token) =>
    s.add token.isTable <$> token.resolveChecked f ctx) {}
  return filling.text

/-- A template filled in, with the document that its blocks make.  Laying blocks out cuts nothing
and looks nothing up. -/
def drawChecked (layout : Layout) (letterhead : Letterhead) :
    Checked (Rendering × TypstDocument) := do
  let text ← renderChecked f ctx template
  let blocks ← formatBlocksBytes text
  return (⟨text, blocks⟩, Typst.document layout letterhead blocks)

theorem foldlM_resolveChecked (tokens : List Token) (s : Filling) :
    tokens.foldlM (fun (s : Filling) (token : Token) =>
        s.add token.isTable <$> token.resolveChecked f ctx) s
      = Checked.ofOption .overflow (tokens.foldlM (Filling.take f ctx) s) := by
  induction tokens generalizing s with
  | nil => rfl
  | cons token tokens ih =>
    rw [List.foldlM_cons, List.foldlM_cons, token.resolveChecked_eq, Filling.take]
    cases token.resolve? f ctx with
    | none => rfl
    | some text => exact ih (s.add token.isTable text)

theorem renderChecked_eq :
    renderChecked f ctx template = Checked.ofOption .overflow (render? f ctx template) := by
  have hrender : render? f ctx template
      = ((Token.scan template).foldlM (Filling.take f ctx) {}).map (·.text) := rfl
  rw [renderChecked, Token.scanBytes_eq, Checked.ok_bind, foldlM_resolveChecked, hrender]
  cases (Token.scan template).foldlM (Filling.take f ctx) {} <;> rfl

/-- **Drawing a document fails only on a total.**  Either the template asks for a total whose running
sum leaves the range of decimals, and that is the fault; or every cut is between characters, every
place is there, and the document is the one that the template and the letterhead make. -/
theorem drawChecked_fails_only_on_totals (layout : Layout) (letterhead : Letterhead) :
    (AsksTooMuch ctx template ∧
        drawChecked f ctx template layout letterhead = .error .overflow) ∨
      (¬AsksTooMuch ctx template ∧ ∃ r, renderTemplate? f ctx template = some r ∧
        drawChecked f ctx template layout letterhead
          = .ok (r, Typst.document layout letterhead r.blocks)) := by
  rw [← render?_eq_none_iff f, drawChecked, renderChecked_eq, renderTemplate?]
  cases render? f ctx template with
  | none => exact .inl ⟨rfl, rfl⟩
  | some text =>
    refine .inr ⟨Option.some_ne_none text, _, rfl, ?_⟩
    simp only [Checked.ofOption, Checked.ok_bind, formatBlocksBytes_eq]
    rfl

/-- Payments whose sum is one of them, but not before the last is added. -/
def extremePayments : Context where
  documentType := .agreement
  today := ⟨2027, 1, 1, by decide, by decide⟩
  pending :=
    [{ id := 1, amount := Decimal.ofParts? (2 ^ 96 - 1) 0 },
      { id := 2, amount := Decimal.ofParts? 1 0 },
      { id := 3, amount := Decimal.ofParts? (-1) 0 }]

-- A sum is taken from left to right, so it fails even where the whole of it would fit.
example : renderChecked {} extremePayments (braced "TOTAL_PENDING_PAYMENTS_AMOUNT".toList)
    = .error .overflow := by decide +kernel

end Conveyance
