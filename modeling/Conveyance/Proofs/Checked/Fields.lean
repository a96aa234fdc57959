import Conveyance.Proofs.Calendar.Stamp
import Conveyance.Proofs.Checked.Cut
import Conveyance.Resolve

/-!
# Proofs/Checked/Fields — what placeholders stand for, step by step

Writing a field cuts digits into groups, falls back to a fixed pattern for a date, and looks up
collections and columns by their places.  None of these fails: **digits are one byte each**, the
fixed pattern writes every date, and the places come from the lists that are read.  The one step
that can fail is a total (`Placeholder.resolveChecked_eq`).
-/

namespace Conveyance

/-! ## Numbers -/

namespace Grouping

/-- The groups of the digits in front of a byte, counted from the right. -/
def groupsBefore (g : Grouping) (digits : Text) (stop : Nat) : Checked (List Text) :=
  if stop = 0 then .ok []
  else do
    let group ← Text.between (stop - g.size) stop digits
    return (← groupsBefore g digits (stop - g.size)) ++ [group]
termination_by stop
decreasing_by
  have := g.size_pos
  omega

/-- Digits with separators, cut into groups by their bytes. -/
def groupDigitsBytes (g : Grouping) (digits : Text) : Checked Text :=
  if Text.utf8Length digits ≤ 3 then .ok digits
  else do
    let (head, tail) ← Text.cutAt (Text.utf8Length digits - 3) digits
    let groups ← g.groupsBefore head (Text.utf8Length head)
    return Text.join [','] groups ++ ',' :: tail

variable {g : Grouping}

/-- The last group of digits, and the groups of those before it. -/
theorem groupsFromRight_eq {t : Text} (ht : t ≠ []) : g.groupsFromRight t
    = g.groupsFromRight (t.take (t.length - g.size)) ++ [t.drop (t.length - g.size)] := by
  have hsize : g.size - 1 + 1 = g.size := Nat.sub_add_cancel g.size_pos
  have hchunks : chunks (g.size - 1) t.reverse
      = (t.drop (t.length - g.size)).reverse
        :: chunks (g.size - 1) (t.take (t.length - g.size)).reverse := by
    rcases hreverse : t.reverse with _ | ⟨c, r⟩
    · exact absurd (List.reverse_eq_nil_iff.1 hreverse) ht
    · rw [chunks, ← List.take_succ_cons, ← List.drop_succ_cons, ← hreverse, hsize,
        List.take_reverse, List.drop_reverse]
  rw [groupsFromRight, hchunks, List.map_cons, List.reverse_reverse, List.reverse_cons]
  rfl

/-- **Groups are cut from the right**, each where the one behind it starts. -/
theorem groupsBefore_eq {digits : Text} (hdigits : ∀ c ∈ digits, c.toNat < 128) {stop : Nat}
    (hstop : stop ≤ digits.length) :
    g.groupsBefore digits stop = .ok (g.groupsFromRight (digits.take stop)) := by
  fun_induction g.groupsBefore digits stop with
  | case1 =>
    rw [List.take_zero, groupsFromRight, List.reverse_nil, chunks]
    rfl
  | case2 stop hne ih =>
    have hlength : (digits.take stop).length = stop := List.length_take_of_le hstop
    have hnil : digits.take stop ≠ [] := List.ne_nil_of_length_pos (by omega)
    rw [Text.between_of_ascii hdigits (Nat.sub_le stop g.size) hstop, Checked.ok_bind,
      ih (by omega), groupsFromRight_eq hnil, hlength, List.take_take,
      Nat.min_eq_left (Nat.sub_le stop g.size)]
    rfl

/-- **Digits are cut into groups between characters.** -/
theorem groupDigitsBytes_eq {digits : Text} (hdigits : ∀ c ∈ digits, c.isDigit = true) :
    g.groupDigitsBytes digits = .ok (g.groupDigits digits) := by
  have hascii : ∀ c ∈ digits, c.toNat < 128 := fun c hc => by
    have hdigit := hdigits c hc
    simp only [Char.isDigit, Bool.and_eq_true, decide_eq_true_eq] at hdigit
    exact Nat.lt_of_le_of_lt hdigit.2 (by decide)
  rw [groupDigitsBytes, groupDigits, Text.utf8Length_of_ascii hascii]
  split
  · rfl
  · have htake : ∀ c ∈ digits.take (digits.length - 3), c.toNat < 128 := fun c hc =>
      hascii c (List.mem_of_mem_take hc)
    rw [Text.cutAt_of_ascii hascii (Nat.sub_le _ 3), Checked.ok_bind]
    dsimp only
    rw [Text.utf8Length_of_ascii htake, groupsBefore_eq htake (Nat.le_refl _), List.take_length]
    rfl

end Grouping

/-! ## Dates -/

namespace Pattern

/-- The pattern of ISO 8601. -/
def iso : Text := "%Y-%m-%d".toList

theorem twoPlaces_eq {n : Nat} (hn : n < 100) :
    PatternItem.twoPlaces n .zero = Date.twoDigits n := by
  revert n
  decide +kernel

/-- **The pattern of ISO 8601 writes every date.** -/
theorem format?_iso (d : Date) : format? iso d = some d.text := by
  have hitems : PatternItem.items iso = [.number .year .zero, .literal ['-'], .number .month .zero,
      .literal ['-'], .number .day .zero] := by decide +kernel
  have hyear : PatternItem.yearPlaces d.year .zero = Date.yearText d.year := by
    rw [PatternItem.yearPlaces, Date.yearText]
    split <;> rfl
  rw [format?, hitems]
  simp [PatternItem.text?, PatternItem.numberText?, hyear, twoPlaces_eq d.month_lt,
    twoPlaces_eq d.day_lt, Date.text]

end Pattern

/-! ## Values -/

namespace Format

variable (f : Format)

/-- Money, its whole part grouped by bytes. -/
def moneyChecked (negative : Bool) (units places : Nat) : Checked Text :=
  let sign := if negative && units != 0 then ['-'] else []
  let rest := if places = 0 then []
    else '.' :: Text.padLeft '0' places (Text.ofNat (units % tenTo places))
  (fun whole => sign ++ f.symbol ++ whole ++ rest) <$>
    f.grouping.groupDigitsBytes (Text.ofNat (units / tenTo places))

/-- A number rounded to the given places, as money. -/
def currencyChecked (places : Nat) (d : Decimal) : Checked Text :=
  f.moneyChecked (d.coeff < 0) (d.unitsAt places) places

/-- A price, with two places only when it is not whole. -/
def priceChecked (d : Decimal) : Checked Text :=
  if d.isWhole then f.currencyChecked 0 d else f.currencyChecked 2 d

/-- A date by the pattern, or by the pattern of ISO 8601, **which has to be one that can be written**.
-/
def dateChecked (d : Date) : Checked Text :=
  match Pattern.format? f.datePattern d with
  | some t => .ok t
  | none => Checked.ofOption .unwritable (Pattern.format? Pattern.iso d)

theorem currencyChecked_eq (places : Nat) (d : Decimal) :
    f.currencyChecked places d = .ok (f.currency places d) := by
  rw [currencyChecked, moneyChecked,
    Grouping.groupDigitsBytes_eq fun c hc => Text.isDigit_of_mem_ofNat hc]
  rfl

theorem priceChecked_eq (d : Decimal) : f.priceChecked d = .ok (f.price d) := by
  rw [priceChecked, price]
  split <;> exact f.currencyChecked_eq _ d

/-- **A date is written by any pattern**: where it cannot be, it is written in ISO 8601. -/
theorem dateChecked_eq (d : Date) : f.dateChecked d = .ok (f.date d) := by
  rw [dateChecked, date, Pattern.format?_iso]
  cases Pattern.format? f.datePattern d <;> rfl

end Format

namespace Value

/-- A value, written. -/
def displayChecked (f : Format) : Value → Checked Text
  | empty => .ok []
  | text t => .ok t
  | amount d => f.currencyChecked 2 d
  | price d => f.priceChecked d
  | date d => f.dateChecked d
  | percent d => .ok (Format.plain d ++ ['%'])
  | number d => .ok (Format.plain d)
  | integer i => .ok (Text.ofInt i)

theorem displayChecked_eq (f : Format) (v : Value) :
    v.displayChecked f = .ok (v.display f) := by
  cases v with
  | amount d => exact f.currencyChecked_eq 2 d
  | price d => exact f.priceChecked_eq d
  | date d => exact f.dateChecked_eq d
  | _ => rfl

/-- A cell that may be missing. -/
def cellChecked (f : Format) : Option Value → Checked Text
  | some v => v.displayChecked f
  | none => .ok []

theorem cellChecked_eq (f : Format) (v : Option Value) :
    cellChecked f v = .ok ((v.map (display f)).getD []) := by
  cases v with
  | none => rfl
  | some v => exact v.displayChecked_eq f

end Value

/-! ## Collections -/

variable (f : Format) (ctx : Context)

/-- The rows of a collection, looked up by its place among all of them. -/
def Collection.rowsChecked (c : Collection) : Checked (List (List Value)) :=
  Checked.read (all.map (rows ctx)) c.ctorIdx

/-- **The collections are listed in the order of their places.** -/
theorem Collection.rowsChecked_eq (c : Collection) : c.rowsChecked ctx = .ok (c.rows ctx) := by
  cases c <;> rfl

/-- A collection as a table, its columns looked up by their places. -/
def Table.checked (c : Collection) : Checked Table := do
  let rows ← c.rowsChecked ctx
  let header ← (columns c).mapM fun column => (·.header) <$> Checked.read c.columns column.2
  let cells ← rows.mapM fun row => (columns c).mapM fun column =>
    Value.cellChecked f row[column.2]?
  return ⟨header, cells⟩

/-- **The places of columns are those of the list that they are looked up in.** -/
theorem Table.checked_eq (c : Collection) : checked f ctx c = .ok (ofCollection f ctx c) := by
  have hheader : (columns c).mapM (fun column => (·.header) <$> Checked.read c.columns column.2)
      = .ok ((columns c).map (·.1.header)) := by
    refine Checked.mapM_eq_ok fun column hcolumn => ?_
    have hplace := List.mem_zipIdx_iff_getElem?.1 (List.mem_of_mem_filter hcolumn)
    rw [Checked.read, hplace]
    rfl
  have hcells : (c.rows ctx).mapM (fun row =>
      (columns c).mapM fun column => Value.cellChecked f row[column.2]?)
      = .ok ((c.rows ctx).map fun row =>
        (columns c).map fun column => (row[column.2]?.map (Value.display f)).getD []) :=
    Checked.mapM_eq_ok fun row _ => Checked.mapM_eq_ok fun column _ => Value.cellChecked_eq f _
  rw [checked, c.rowsChecked_eq, Checked.ok_bind, hheader, Checked.ok_bind, hcells]
  rfl

/-! ## Placeholders -/

/-- The text that a placeholder stands for; a total has to stay in the range of decimals. -/
def Placeholder.resolveChecked : Placeholder → Checked Text
  | scalar field => (field.value ctx).displayChecked f
  | current field => (field.value ctx).displayChecked f
  | cell c column index => do
    let rows ← c.rowsChecked ctx
    Value.cellChecked f (rows[index]?.bind (·[column]?))
  | table c => (·.markup) <$> Table.checked f ctx c
  | total c => do
    let rows ← c.rowsChecked ctx
    let amounts := match c.amountColumn? with
      | none => []
      | some column => rows.filterMap fun row => row[column]?.bind Value.decimal?
    let total ← Checked.ofOption .overflow (Decimal.sum? amounts)
    f.currencyChecked 2 total
  | count c => (fun rows => Text.ofNat rows.length) <$> c.rowsChecked ctx

/-- **Only a total fails**, and only by leaving the range of decimals. -/
theorem Placeholder.resolveChecked_eq (p : Placeholder) :
    p.resolveChecked f ctx = Checked.ofOption .overflow (p.resolve? f ctx) := by
  cases p with
  | scalar field => exact Value.displayChecked_eq f _
  | current field => exact Value.displayChecked_eq f _
  | cell c column index =>
    rw [resolveChecked, c.rowsChecked_eq, Checked.ok_bind, Value.cellChecked_eq]
    rfl
  | table c =>
    rw [resolveChecked, Table.checked_eq]
    rfl
  | total c =>
    rw [resolveChecked, c.rowsChecked_eq, Checked.ok_bind, resolve?, Collection.total?,
      Collection.amounts]
    dsimp only
    cases Decimal.sum? _ with
    | none => rfl
    | some total => exact f.currencyChecked_eq 2 total
  | count c =>
    rw [resolveChecked, c.rowsChecked_eq]
    rfl

/-- The text that a token stands for. -/
def Token.resolveChecked : Token → Checked Text
  | literal t => .ok t
  | tag g => .ok g.text
  | placeholder p => p.resolveChecked f ctx

theorem Token.resolveChecked_eq (token : Token) :
    token.resolveChecked f ctx = Checked.ofOption .overflow (token.resolve? f ctx) := by
  cases token with
  | literal t => rfl
  | tag g => rfl
  | placeholder p => exact p.resolveChecked_eq f ctx

end Conveyance
