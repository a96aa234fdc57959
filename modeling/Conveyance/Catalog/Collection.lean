import Conveyance.Catalog.Value
import Conveyance.Context
import Conveyance.Markup.Row

/-!
# Catalog/Collection — the five collections and their columns

A collection is an ordered list of records of one kind, read as rows of fields over a fixed list of
columns.  Single cells, tables, totals and counts are all defined once, over those rows: `cell?`,
`table`, `total?` and `count`.  **Every row has one field per column** (`length_row`).
-/

namespace Conveyance

/-- The five collections. -/
inductive Collection where
  | milestones
  | schedules
  | requests
  | receipts
  | pending
  deriving DecidableEq, Repr

/-- A column of a collection. -/
structure Column where
  /-- The name of the column in a placeholder. -/
  key : Text
  /-- What stands above it in a table. -/
  header : Text
  /-- Whether tables show it. -/
  inTable : Bool := true
  deriving DecidableEq, Repr

namespace Collection

/-! ## Names and columns -/

/-- Every collection, in the order in which they are listed. -/
def all : List Collection := [milestones, schedules, requests, receipts, pending]

/-- The name of one entry, in placeholders for single cells. -/
def singular : Collection → Text
  | milestones => "PROJECT_MILESTONE".toList
  | schedules => "CUSTOMER_SCHEDULE".toList
  | requests => "PAYMENT_REQUEST".toList
  | receipts => "PAYMENT_RECEIPT".toList
  | pending => "PENDING_PAYMENT".toList

/-- The name of the whole, in placeholders for tables, totals and counts. -/
def plural : Collection → Text
  | milestones => "PROJECT_MILESTONES".toList
  | schedules => "CUSTOMER_SCHEDULES".toList
  | requests => "PAYMENT_REQUESTS".toList
  | receipts => "PAYMENT_RECEIPTS".toList
  | pending => "PENDING_PAYMENTS".toList

/-- A column that tables show. -/
def shown (key header : String) : Column := { key := key.toList, header := header.toList }

/-- A column that only placeholders for single cells reach. -/
def hidden (key header : String) : Column :=
  { key := key.toList, header := header.toList, inTable := false }

/-- The columns of a collection. -/
def columns : Collection → List Column
  | milestones =>
    [shown "SR_NO" "Sr No", shown "NAME" "Milestone Name", shown "COMPLETION" "Completion %",
      shown "STATUS" "Status", hidden "DESCRIPTION" "Description",
      hidden "TARGET_DATE" "Target Date"]
  | schedules =>
    [shown "SR_NO" "Sr No", shown "DESCRIPTION" "Description", shown "PERCENTAGE" "Percentage",
      shown "AMOUNT" "Amount", shown "DUE_DATE" "Due Date", shown "STATUS" "Status"]
  | requests =>
    [shown "SR_NO" "Sr No", shown "DESCRIPTION" "Description", shown "AMOUNT" "Amount",
      shown "DATE" "Request Date", shown "DUE_DATE" "Due Date", shown "STATUS" "Status"]
  | receipts =>
    [shown "SR_NO" "Sr No", shown "DESCRIPTION" "Description", shown "AMOUNT" "Amount",
      shown "DATE" "Receipt Date", shown "PAYMENT_METHOD" "Payment Method",
      shown "REFERENCE_NO" "Reference No"]
  | pending =>
    [shown "SR_NO" "Sr No", shown "DESCRIPTION" "Description", shown "AMOUNT" "Amount",
      shown "DUE_DATE" "Due Date", shown "STATUS" "Status"]

/-- The place of the column with the given key. -/
def columnIndex? (c : Collection) (key : Text) : Option Nat :=
  c.columns.findIdx? (·.key = key)

/-- The place of the column that totals are taken over. -/
def amountColumn? (c : Collection) : Option Nat := c.columnIndex? "AMOUNT".toList

/-- The collection with the given plural name. -/
def ofPlural? (n : Text) : Option Collection := all.find? (·.plural = n)

/-- A collection and the place of a column, from the name of one entry, an underscore and the key of
the column. -/
def ofField? (n : Text) : Option (Collection × Nat) :=
  all.findSome? fun c =>
    ((Text.stripPrefix? (c.singular ++ ['_']) n).bind c.columnIndex?).map (c, ·)

/-! ## Rows -/

/-- **The serial number** of an entry: its own, or else its place, counted from 1. -/
def serial (srNo : Option Int) (index : Nat) : Value := .integer (srNo.getD (index + 1))

/-- The fields of a milestone. -/
def milestoneRow (m : Milestone) (index : Nat) : List Value :=
  [serial m.srNo index, .text m.name, .ofOption .percent m.completion, .ofOption .text m.status,
    .ofOption .text m.description, .ofOption .date m.targetDate]

/-- The fields of a schedule. -/
def scheduleRow (s : Schedule) (index : Nat) : List Value :=
  [serial s.srNo index, .ofOption .text s.description, .ofOption .percent s.percentage,
    .ofOption .amount s.amount, .ofOption .date s.dueDate, .ofOption .text s.status]

/-- The fields of a payment request. -/
def requestRow (r : PaymentRequest) (index : Nat) : List Value :=
  [serial none index, .ofOption .text r.description, .ofOption .amount r.amount,
    .ofOption .date r.requestDate, .ofOption .date r.dueDate, .ofOption .text r.status]

/-- The fields of a payment receipt. -/
def receiptRow (r : PaymentReceipt) (index : Nat) : List Value :=
  [serial none index, .ofOption .text r.description, .ofOption .amount r.amount,
    .ofOption .date r.receiptDate, .ofOption .text r.paymentMethod, .ofOption .text r.referenceNo]

/-- The fields of a pending payment. -/
def pendingRow (p : PendingPayment) (index : Nat) : List Value :=
  [serial none index, .ofOption .text p.description, .ofOption .amount p.amount,
    .ofOption .date p.dueDate, .ofOption .text p.status]

/-- The rows of a collection, in the order of its records. -/
def rows (ctx : Context) : Collection → List (List Value)
  | milestones => ctx.milestones.mapIdx fun i m => milestoneRow m i
  | schedules => ctx.schedules.mapIdx fun i s => scheduleRow s i
  | requests => ctx.requests.mapIdx fun i r => requestRow r i
  | receipts => ctx.receipts.mapIdx fun i r => receiptRow r i
  | pending => ctx.pending.mapIdx fun i p => pendingRow p i

/-- **One field per column.** -/
theorem length_row {ctx : Context} {c : Collection} {row : List Value} (h : row ∈ c.rows ctx) :
    row.length = c.columns.length := by
  cases c <;> obtain ⟨_, _, rfl⟩ := List.mem_mapIdx.1 h <;> rfl

/-! ## Reading a collection -/

/-- The field of an entry, both counted from 0. -/
def cell? (ctx : Context) (c : Collection) (index column : Nat) : Option Value :=
  (c.rows ctx)[index]?.bind (·[column]?)

/-- The amounts that are there. -/
def amounts (ctx : Context) (c : Collection) : List Decimal :=
  match c.amountColumn? with
  | none => []
  | some column => (c.rows ctx).filterMap fun row => row[column]?.bind Value.decimal?

/-- **The total**: absent amounts count as nothing; `none` when it leaves the range of decimals. -/
def total? (ctx : Context) (c : Collection) : Option Decimal := Decimal.sum? (c.amounts ctx)

/-- How many entries there are. -/
def count (ctx : Context) (c : Collection) : Nat := (c.rows ctx).length

end Collection

/-! ## Tables -/

/-- A collection as text cells. -/
structure Table where
  header : List Text
  rows : List (List Text)
  deriving DecidableEq, Repr

namespace Table

/-- The lines of a table, the header first. -/
def lines (t : Table) : List Text := (t.header :: t.rows).map Row.markup

/-- A table as one line per row. -/
def markup (t : Table) : Text := Text.join ['\n'] t.lines

/-- The columns that tables show, with their places. -/
def columns (c : Collection) : List (Column × Nat) := c.columns.zipIdx.filter (·.1.inTable)

/-- **A collection as a table**; an empty collection still has its header. -/
def ofCollection (f : Format) (ctx : Context) (c : Collection) : Table where
  header := (columns c).map (·.1.header)
  rows := (c.rows ctx).map fun row =>
    (columns c).map fun column => (row[column.2]?.map (Value.display f)).getD []

end Table

end Conveyance
