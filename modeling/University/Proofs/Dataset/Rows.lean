import Mathlib.Data.List.Infix
import Mathlib.Data.List.Nodup
import Mathlib.Data.List.TakeWhile
import University.Dataset.Basic

/-! # The rows of a dataset in the order of insertion

A row is inserted with the schema of its table. All rows of the tables that come earlier are there
when the first row of a table is inserted.
-/

namespace University

/-- A row that is inserted into a table. -/
structure InsertedRow where
  schema : Schema
  values : List Value

namespace InsertedRow

/-- The values of a row with the names of their columns. -/
def cells (row : InsertedRow) : List (String × Value) := row.schema.columnNames.zip row.values

def value? (row : InsertedRow) (column : String) : Option Value := row.cells.lookup column

end InsertedRow

def Batch.insertedRows (b : Batch) : List InsertedRow := b.rows.map fun values => ⟨b.schema, values⟩

/-- The tables that are inserted before a table. -/
def Table.before (t : Table) : List Table := Table.all.takeWhile (· ≠ t)

namespace Dataset

/-- All rows in the order of insertion. -/
def insertedRows (d : Dataset) : List InsertedRow := d.batches.flatMap Batch.insertedRows

def tableRows (d : Dataset) (t : Table) : List InsertedRow := (d.batch t).insertedRows

variable {d : Dataset} {t : Table} {row : InsertedRow}

theorem insertedRows_eq (d : Dataset) : d.insertedRows = Table.all.flatMap d.tableRows := by
  rw [insertedRows, batches, List.flatMap_map]
  rfl

theorem mem_tableRows :
    row ∈ d.tableRows t ↔ ∃ r ∈ d.records t, row = ⟨t.schema, Record.row r⟩ := by
  simp only [tableRows, batch, Batch.insertedRows, Batch.ofRecords, List.map_map, List.mem_map,
    Function.comp_apply, Table.schema, eq_comm]

theorem name_of_mem_tableRows (h : row ∈ d.tableRows t) : row.schema.name = t.name := by
  obtain ⟨r, -, rfl⟩ := mem_tableRows.mp h
  rfl

end Dataset

theorem Table.name_injective : Function.Injective Table.name := by
  have distinct : (Table.all.map Table.name).Nodup := by decide
  intro t u same
  exact List.inj_on_of_nodup_map distinct (Table.mem_all t) (Table.mem_all u) same

namespace Dataset

variable {d : Dataset} {parent child : Table} {row : InsertedRow} {pre : List InsertedRow}

theorem mem_insertedRows : row ∈ d.insertedRows ↔ ∃ t, row ∈ d.tableRows t := by
  rw [insertedRows_eq, List.mem_flatMap]
  exact ⟨fun ⟨t, _, h⟩ => ⟨t, h⟩, fun ⟨t, h⟩ => ⟨t, Table.mem_all t, h⟩⟩

theorem mem_tableRows_of_name (hrow : row ∈ d.insertedRows) (hname : row.schema.name = child.name) :
    row ∈ d.tableRows child := by
  obtain ⟨t, ht⟩ := mem_insertedRows.mp hrow
  obtain rfl : t = child := Table.name_injective ((name_of_mem_tableRows ht).symm.trans hname)
  exact ht

/-- As soon as one row of a table is inserted, all rows of earlier tables are. -/
theorem tableRows_subset_of_prefix (hpre : pre <+: d.insertedRows) (hrow : row ∈ pre)
    (hname : row.schema.name = child.name) (hparent : parent ∈ child.before) :
    ∀ p ∈ d.tableRows parent, p ∈ pre := by
  have split : child.before.flatMap d.tableRows <+: d.insertedRows := by
    rw [insertedRows_eq]
    exact List.IsPrefix.flatMap (List.takeWhile_prefix _) _
  rcases List.prefix_or_prefix_of_prefix hpre split with within | beyond
  · obtain ⟨t, ht, hmem⟩ := List.mem_flatMap.mp (within.subset hrow)
    have same := Table.name_injective ((name_of_mem_tableRows hmem).symm.trans hname)
    have different := List.mem_takeWhile_imp ht
    simp [same] at different
  · intro p hp
    exact beyond.subset (List.mem_flatMap.mpr ⟨parent, hparent, hp⟩)

end Dataset

end University
