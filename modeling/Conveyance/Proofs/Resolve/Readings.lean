import Conveyance.Proofs.Catalog.Fields
import Conveyance.Proofs.Number.Sum
import Conveyance.Proofs.Resolve.TableTemplate
import Conveyance.Proofs.Text.Numeral

/-!
# Proofs/Resolve/Readings — the ways to read a collection agree

A template reads a collection cell by cell, as a table, as a total and as a count.  All of them read
the same records: **a number in brackets reads the field that the column is named for**, a table
shows in its visible columns what the cells show, the count counts the rows of the table, and the
total adds the amounts that are there (`readingsAgree`).
-/

namespace Conveyance

open ListingEntry (braced)

variable (f : Format) (ctx : Context)

/-- **A template that is one placeholder** fills in to what the placeholder stands for. -/
theorem render?_braced {name : Text} {p : Placeholder} (h : Placeholder.Denotes name p) :
    render? f ctx (braced name) = p.resolve? f ctx := by
  have hscan := Token.scan_append_placeholder h [] []
  rw [List.nil_append, List.append_nil, Token.scan_nil, List.nil_append] at hscan
  have hrender : render? f ctx (braced name)
      = ((Token.scan (braced name)).foldlM (Filling.take f ctx) {}).map (·.text) := rfl
  have hresolve : (Token.placeholder p).resolve? f ctx = p.resolve? f ctx := rfl
  rw [hrender, hscan, List.foldlM_cons, Filling.take, hresolve]
  cases p.resolve? f ctx with
  | none => rfl
  | some text =>
    change some (Filling.add {} (Token.placeholder p).isTable text).text = some text
    simp [Filling.add, Filling.newlineBefore, Filling.newlineAfter]

namespace Collection

/-- The name of a cell: the name of one entry, the name of the column and a number in brackets. -/
def cellName (c : Collection) (col : Column) (digits : Text) : Text :=
  c.singular ++ '_' :: col.key ++ '[' :: digits ++ [']']

/-- **The ways to read a collection agree.** -/
structure ReadingsAgree (c : Collection) : Prop where
  /-- Every row has one cell per column. -/
  row : ∀ row ∈ c.rows ctx, row.length = c.columns.length
  /-- A number in brackets reads the field of the record at that place. -/
  cell : ∀ col ∈ c.columns, ∀ digits, Text.isDigits digits = true →
    ∀ e, (c.entries ctx)[Text.digitsValue digits]? = some e →
      render? f ctx (braced (c.cellName col digits))
        = some ((c.field e (Text.digitsValue digits) col.key).display f)
  /-- Behind the last record there is nothing. -/
  beyond : ∀ col ∈ c.columns, ∀ digits, Text.isDigits digits = true →
    (c.entries ctx).length ≤ Text.digitsValue digits →
      render? f ctx (braced (c.cellName col digits)) = some []
  /-- A serial number is the one that is stored, or else the place, counted from 1. -/
  serial : ∀ digits, Text.isDigits digits = true →
    ∀ e, (c.entries ctx)[Text.digitsValue digits]? = some e →
      render? f ctx (braced (c.singular ++ "_SR_NO[".toList ++ digits ++ [']']))
        = some (Text.ofInt ((c.storedSerial? e).getD (Text.digitsValue digits + 1)))
  /-- A table shows in its columns what the cells show. -/
  table : render? f ctx (tablePlaceholder c) = some (Table.ofCollection f ctx c).markup ∧
    (Table.ofCollection f ctx c).rows.map (List.map some)
      = (List.range (c.entries ctx).length).map fun i =>
          (c.columns.filter (·.inTable)).map fun col =>
            render? f ctx (braced (c.cellName col (Text.ofNat i)))
  /-- The count counts the rows of the table. -/
  count : render? f ctx (braced (c.plural ++ "_COUNT".toList))
    = some (Text.ofNat (Table.ofCollection f ctx c).rows.length)
  /-- The total adds the amounts that are there. -/
  total : ∀ col ∈ c.columns, col.key = "AMOUNT".toList →
    (∀ e place, c.field e place col.key = .ofOption .amount (c.amount? e)) ∧
    render? f ctx (braced ("TOTAL_".toList ++ c.plural ++ "_AMOUNT".toList))
      = (Decimal.sum? ((c.entries ctx).filterMap c.amount?)).map f.amount
  /-- The sum is there and exact while the amounts, in units of a scale that is at least theirs, add
  up to less than 96 bits. -/
  exact : ∀ s, (∀ d ∈ (c.entries ctx).filterMap c.amount?, d.scale ≤ s) →
    (((c.entries ctx).filterMap c.amount?).map fun d => (d.coeffAt s).natAbs).sum < 2 ^ 96 →
      ∃ sum, Decimal.sum? ((c.entries ctx).filterMap c.amount?) = some sum ∧ sum.scale ≤ s ∧
        sum.coeffAt s = (((c.entries ctx).filterMap c.amount?).map (Decimal.coeffAt s)).sum

variable {f ctx} {c : Collection}

/-- **A cell is read by its number**, as long as the collection ends before the numbers do. -/
theorem render?_cellName (hsize : (c.entries ctx).length < 2 ^ 64) {col : Column}
    (hcol : col ∈ c.columns) {digits : Text} (hdigits : Text.isDigits digits = true) :
    render? f ctx (braced (c.cellName col digits))
      = some ((((c.entries ctx)[Text.digitsValue digits]?).map fun e =>
          (c.field e (Text.digitsValue digits) col.key).display f).getD []) := by
  obtain ⟨column, hcolumn⟩ := List.mem_iff_getElem?.1 hcol
  rw [cellName, render?_braced f ctx (.cell hcolumn hdigits), Placeholder.resolve?,
    cell?_eq hcolumn]
  by_cases hlt : Text.digitsValue digits < (c.entries ctx).length
  · have hmin : min (Text.digitsValue digits) 18446744073709551615 = Text.digitsValue digits := by
      omega
    rw [hmin, Option.map_map]
    rfl
  · -- a number beyond 64 bits is read as the last one that fits, which is behind the last record too
    have hmin : (c.entries ctx).length ≤ min (Text.digitsValue digits) 18446744073709551615 := by
      omega
    rw [List.getElem?_eq_none hmin, List.getElem?_eq_none (Nat.le_of_not_lt hlt)]
    rfl

/-- The visible columns, without their places. -/
theorem map_fst_columns (c : Collection) :
    (Table.columns c).map Prod.fst = c.columns.filter (·.inTable) := by
  have hfilter := List.filter_map (f := Prod.fst) (l := c.columns.zipIdx) (p := (·.inTable))
  rw [List.zipIdx_map_fst] at hfilter
  exact hfilter.symm

/-- **The cells of a table are the fields that its visible columns are named for.** -/
theorem rows_ofCollection : (Table.ofCollection f ctx c).rows
    = (c.entries ctx).mapIdx fun i e =>
        (c.columns.filter (·.inTable)).map fun col => (c.field e i col.key).display f := by
  rw [Table.ofCollection, rows_eq, List.mapIdx_eq_zipIdx_map, List.mapIdx_eq_zipIdx_map]
  dsimp only
  rw [List.map_map]
  refine List.map_congr_left fun entry _ => ?_
  rw [Function.comp_apply, ← map_fst_columns, List.map_map]
  refine List.map_congr_left fun column hcolumn => ?_
  have hmem := List.mem_zipIdx_iff_getElem?.1 (List.mem_of_mem_filter hcolumn)
  rw [List.getElem?_map, hmem]
  rfl

theorem exists_serial_column (c : Collection) :
    ∃ col ∈ c.columns, col.key = "SR_NO".toList := by
  cases c <;> decide

/-- **The ways to read a collection agree**, when it ends before the numbers of 64 bits do. -/
theorem readingsAgree (hsize : (c.entries ctx).length < 2 ^ 64) : c.ReadingsAgree f ctx where
  row _ hrow := length_row hrow
  cell col hcol digits hdigits e he := by
    rw [render?_cellName hsize hcol hdigits, he]
    rfl
  beyond col hcol digits hdigits hle := by
    rw [render?_cellName hsize hcol hdigits, List.getElem?_eq_none hle]
    rfl
  serial digits hdigits e he := by
    obtain ⟨col, hcol, hkey⟩ := exists_serial_column c
    have hname : c.singular ++ "_SR_NO[".toList ++ digits ++ [']'] = c.cellName col digits := by
      simp [cellName, hkey]
    rw [hname, render?_cellName hsize hcol hdigits, he, Option.map_some, field, if_pos hkey]
    rfl
  table := by
    refine ⟨render?_braced f ctx (.table c), ?_⟩
    rw [rows_ofCollection]
    refine List.ext_getElem (by simp) fun i hi hi' => ?_
    have hlt : i < (c.entries ctx).length := by simpa using hi
    simp only [List.getElem_map, List.getElem_mapIdx, List.getElem_range, List.map_map]
    refine List.map_congr_left fun col hcol => ?_
    rw [render?_cellName hsize (List.mem_of_mem_filter hcol) (Text.isDigits_ofNat i),
      Text.digitsValue_ofNat, List.getElem?_eq_getElem hlt]
    rfl
  count := by
    rw [render?_braced f ctx (.count c), Placeholder.resolve?, Collection.count, Table.ofCollection,
      List.length_map]
  total col hcol hkey := by
    refine ⟨fun e place => ?_, ?_⟩
    · rw [hkey, field_amount (Placeholder.isSome_amountColumn?.2 ⟨col, hcol, hkey⟩)]
    · rw [render?_braced f ctx (.total hcol hkey), Placeholder.resolve?, total?, amounts_eq]
  exact _ hscale hfit := Decimal.sum?_exact hscale hfit

/-- Three instalments: the first and the last with numbers of their own, the second without an amount,
and the last paid back. -/
def threeInstalments : Context where
  documentType := .agreement
  today := ⟨2023, 4, 1, by decide, by decide⟩
  schedules :=
    [{ id := 1, srNo := some 7, description := some "Booking".toList,
       amount := Decimal.ofParts? 100050 2 },
      { id := 2, description := some "Plinth".toList },
      { id := 3, srNo := some 4, amount := Decimal.ofParts? (-25025) 2 }]

/-- The three instalments are read by numbers with leading zeros and beyond 64 bits, and added up. -/
theorem readingsAgree_threeInstalments :
    (schedules.entries threeInstalments).length < 2 ^ 64 ∧
      schedules.ReadingsAgree {} threeInstalments ∧
      render? {} threeInstalments (braced "CUSTOMER_SCHEDULE_SR_NO[00]".toList) = some "7".toList ∧
      render? {} threeInstalments (braced "CUSTOMER_SCHEDULE_SR_NO[1]".toList) = some "2".toList ∧
      render? {} threeInstalments (braced "CUSTOMER_SCHEDULE_AMOUNT[02]".toList)
        = some "-₹250.25".toList ∧
      render? {} threeInstalments (braced "CUSTOMER_SCHEDULE_AMOUNT[18446744073709551616]".toList)
        = some [] ∧
      render? {} threeInstalments (braced "CUSTOMER_SCHEDULES_COUNT".toList) = some "3".toList ∧
      render? {} threeInstalments (braced "TOTAL_CUSTOMER_SCHEDULES_AMOUNT".toList)
        = some "₹750.25".toList := by
  have hsize : (schedules.entries threeInstalments).length < 2 ^ 64 := by decide
  have h : schedules.ReadingsAgree {} threeInstalments := readingsAgree hsize
  have hcol : shown "AMOUNT" "Amount" ∈ schedules.columns := by decide
  refine ⟨hsize, h, ?_, ?_, ?_, ?_, ?_, ?_⟩
  · exact (h.serial ['0', '0'] (by decide) _ rfl).trans (by decide +kernel)
  · exact (h.serial ['1'] (by decide) _ rfl).trans (by decide +kernel)
  · exact (h.cell _ hcol ['0', '2'] (by decide) _ rfl).trans (by decide +kernel)
  · exact h.beyond _ hcol "18446744073709551616".toList (by decide) (by decide +kernel)
  · exact h.count.trans (by decide +kernel)
  · exact (h.total _ hcol rfl).2.trans (by decide +kernel)

end Collection

end Conveyance
