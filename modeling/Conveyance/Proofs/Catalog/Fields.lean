import Conveyance.Catalog.Collection

/-!
# Proofs/Catalog/Fields — the fields of a record by the names of their columns

A collection is read through rows by position.  Here each record has its fields **by the name of the
column that shows them** (`Collection.field`), in the order of the record; `rows_eq` says that the
rows hold, column by column, the field that the column is named for.
-/

namespace Conveyance.Collection

/-! ## Records -/

/-- The records that a collection lists. -/
def Entry : Collection → Type
  | milestones => Milestone
  | schedules => Schedule
  | requests => PaymentRequest
  | receipts => PaymentReceipt
  | pending => PendingPayment

/-- The records of a collection, in the order of the context. -/
def entries (ctx : Context) : (c : Collection) → List c.Entry
  | milestones => ctx.milestones
  | schedules => ctx.schedules
  | requests => ctx.requests
  | receipts => ctx.receipts
  | pending => ctx.pending

/-- The serial number that a record stores. -/
def storedSerial? : (c : Collection) → c.Entry → Option Int
  | milestones, (m : Milestone) => m.srNo
  | schedules, (s : Schedule) => s.srNo
  | _, _ => none

/-- The amount of a record. -/
def amount? : (c : Collection) → c.Entry → Option Decimal
  | milestones, _ => none
  | schedules, (s : Schedule) => s.amount
  | requests, (r : PaymentRequest) => r.amount
  | receipts, (r : PaymentReceipt) => r.amount
  | pending, (p : PendingPayment) => p.amount

/-- The fields of a record besides its serial number, each by the name of its column. -/
def fields : (c : Collection) → c.Entry → List (String × Value)
  | milestones, (m : Milestone) =>
    [("NAME", .text m.name), ("DESCRIPTION", .ofOption .text m.description),
      ("COMPLETION", .ofOption .percent m.completion), ("STATUS", .ofOption .text m.status),
      ("TARGET_DATE", .ofOption .date m.targetDate)]
  | schedules, (s : Schedule) =>
    [("DESCRIPTION", .ofOption .text s.description),
      ("PERCENTAGE", .ofOption .percent s.percentage), ("AMOUNT", .ofOption .amount s.amount),
      ("DUE_DATE", .ofOption .date s.dueDate), ("STATUS", .ofOption .text s.status)]
  | requests, (r : PaymentRequest) =>
    [("DESCRIPTION", .ofOption .text r.description), ("AMOUNT", .ofOption .amount r.amount),
      ("DATE", .ofOption .date r.requestDate), ("DUE_DATE", .ofOption .date r.dueDate),
      ("STATUS", .ofOption .text r.status)]
  | receipts, (r : PaymentReceipt) =>
    [("DESCRIPTION", .ofOption .text r.description), ("AMOUNT", .ofOption .amount r.amount),
      ("DATE", .ofOption .date r.receiptDate),
      ("PAYMENT_METHOD", .ofOption .text r.paymentMethod),
      ("REFERENCE_NO", .ofOption .text r.referenceNo)]
  | pending, (p : PendingPayment) =>
    [("DESCRIPTION", .ofOption .text p.description), ("AMOUNT", .ofOption .amount p.amount),
      ("DUE_DATE", .ofOption .date p.dueDate), ("STATUS", .ofOption .text p.status)]

/-- **The field that a column is named for**: the serial number is the one that the record stores,
or else its place, counted from 1. -/
def field (c : Collection) (e : c.Entry) (place : Nat) (key : Text) : Value :=
  if key = "SR_NO".toList then .integer ((c.storedSerial? e).getD (place + 1))
  else (((c.fields e).find? (·.1.toList = key)).map (·.2)).getD .empty

/-- **The rows hold, column by column, the fields that the columns are named for.** -/
theorem rows_eq (ctx : Context) (c : Collection) :
    c.rows ctx
      = (c.entries ctx).mapIdx fun i e => c.columns.map fun col => c.field e i col.key := by
  cases c
  all_goals
    refine congrArg (fun row => List.mapIdx row _) (funext fun i => funext fun e => ?_)
    simp [milestoneRow, scheduleRow, requestRow, receiptRow, pendingRow, serial, columns, shown,
      hidden, field, fields, storedSerial?]

variable {ctx : Context} {c : Collection}

/-- **The cell of a column is the field that the column is named for.** -/
theorem cell?_eq {column : Nat} {col : Column} (hcol : c.columns[column]? = some col)
    (index : Nat) :
    c.cell? ctx index column
      = (c.entries ctx)[index]?.map fun e => c.field e index col.key := by
  rw [cell?, rows_eq, List.getElem?_mapIdx]
  rcases (c.entries ctx)[index]? with _ | e
  · rfl
  · rw [Option.map_some, Option.bind_some, List.getElem?_map, hcol]
    rfl

/-- **The amount column shows the amount.** -/
theorem field_amount (hamount : c.amountColumn?.isSome = true) (e : c.Entry) (place : Nat) :
    c.field e place "AMOUNT".toList = .ofOption .amount (c.amount? e) := by
  cases c with
  | milestones => exact absurd hamount (by decide)
  | _ => simp [field, fields, amount?]

theorem decimal?_ofOption_amount (d : Option Decimal) :
    (Value.ofOption .amount d).decimal? = d := by
  cases d <;> rfl

theorem amount?_of_amountColumn?_eq_none (hamount : c.amountColumn? = none) (e : c.Entry) :
    c.amount? e = none := by
  cases c with
  | milestones => rfl
  | _ => exact absurd hamount (by decide)

/-- **The amounts of a collection are those of its records**, where they are there. -/
theorem amounts_eq (ctx : Context) (c : Collection) :
    c.amounts ctx = (c.entries ctx).filterMap c.amount? := by
  rw [amounts]
  split
  · next hnone =>
    exact (List.filterMap_eq_nil_iff.2 fun e _ => amount?_of_amountColumn?_eq_none hnone e).symm
  · next column hcolumn =>
    have hsome : c.amountColumn?.isSome = true := by rw [hcolumn]; rfl
    obtain ⟨hlt, hkey, _⟩ := List.findIdx?_eq_some_iff_getElem.1 hcolumn
    have hcell : ∀ (e : c.Entry) (place : Nat),
        (c.columns.map fun col => c.field e place col.key)[column]?.bind Value.decimal?
          = c.amount? e := fun e place => by
      rw [List.getElem?_map, List.getElem?_eq_getElem hlt, Option.map_some, Option.bind_some,
        of_decide_eq_true hkey, field_amount hsome, decimal?_ofOption_amount]
    calc (c.rows ctx).filterMap (fun row => row[column]?.bind Value.decimal?)
        = (c.entries ctx).zipIdx.filterMap (c.amount? ∘ Prod.fst) := by
          rw [rows_eq, List.mapIdx_eq_zipIdx_map, List.filterMap_map]
          exact congrArg (List.filterMap · _) (funext fun e => hcell e.1 e.2)
      _ = (c.entries ctx).filterMap c.amount? := by
          rw [← List.filterMap_map, List.zipIdx_map_fst]

end Conveyance.Collection
