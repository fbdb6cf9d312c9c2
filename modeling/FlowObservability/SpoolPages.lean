import FlowObservability.Library.Packing
import FlowObservability.SpoolGrowth
import FlowObservability.SpoolLimits

/-!
The pages of the database file, next to the cap `configure` sets. Which small rows share a page, and
how its trees are shaped above the rows, is up to SQLite; rows larger than half a page share none.
-/

namespace FlowObservability

open Packing Runs Table Transaction

def BatchRow.contentBytes (row : BatchRow) : Nat :=
  row.batchId.utf8ByteSize + row.checksum.utf8ByteSize + row.payload.utf8ByteSize

/-- How SQLite stores a row of `batches`: the bytes of its record, those of them on a leaf page,
and the overflow pages of the others. Besides the texts a record holds eight types and four
integers at most. -/
structure RecordFormat where
  recordSize : BatchRow → Nat
  localSize : Nat → Nat
  overflowPages : Nat → Nat
  recordSize_ge : ∀ row, row.contentBytes ≤ recordSize row
  recordSize_le : ∀ row, recordSize row ≤ row.contentBytes + 105
  localSize_le : ∀ bytes, localSize bytes ≤ SQLITE_PAGE_SIZE - 35
  whole : ∀ bytes ≤ SQLITE_PAGE_SIZE - 35, localSize bytes = bytes ∧ overflowPages bytes = 0

/-! The format as SQLite documents it for a table leaf of 4096 bytes. -/

/-- The pages of an index that SQLite keeps in key order: a leaf has an entry at least, the root of
several pages a key, and any other interior page two. -/
def indexMost (entries : Nat) : Nat := max 1 (3 * (entries + 1) / 4)

/-- The overflow pages of an entry of the index on `batch_id`, of which 489 bytes at least stay in
the tree. Besides the text it holds its types and `seq`. -/
def entryOverflow (row : BatchRow) : Nat :=
  let bytes := row.batchId.utf8ByteSize + 24
  if bytes ≤ (SQLITE_PAGE_SIZE - 12) * 64 / 255 - 23 then 0 else bytes / (SQLITE_PAGE_SIZE - 4) + 1

/-- Where SQLite puts the rows in a database without gaps: the leaf page of each row, and how many
pages hold no row of `batches`. -/
structure RowLayout (format : RecordFormat) (rows : List BatchRow) extends
    Packing (fun row => format.localSize (format.recordSize row)) SQLITE_PAGE_SIZE rows where
  interior : Nat
  batchIdIndex : Nat
  createdAtIndex : Nat
  -- the schema, `metadata` and its index, `gaps`, an empty `batches` and the lock-byte page
  others : Nat
  interior_le : interior ≤ rows.length / 2
  batchIdIndex_ge : 1 ≤ batchIdIndex
  batchIdIndex_le : batchIdIndex ≤ indexMost rows.length + (rows.map entryOverflow).sum
  createdAtIndex_ge : 1 ≤ createdAtIndex
  createdAtIndex_le : createdAtIndex ≤ indexMost rows.length
  others_ge : 4 ≤ others
  others_le : others ≤ 6

section Pages

variable {format : RecordFormat} {rows : List BatchRow}

def RowLayout.own (layout : RowLayout format rows) : Nat :=
  layout.interior + layout.batchIdIndex + layout.createdAtIndex + layout.others

def RowLayout.pages (layout : RowLayout format rows) : Nat :=
  layout.used + (rows.map fun row => format.overflowPages (format.recordSize row)).sum + layout.own

/-- The database is full once the rows, with the new one, and all its other pages are more than the
cap. What `enforce_limits` adds to `gaps` comes after the rows it deletes, and needs no new page. -/
def RowLayout.full (layout : RowLayout format rows) (maxPageCount : Int) : SpoolFaults :=
  fun statement _ =>
    if statement = .insertBatch ∧ maxPageCount < layout.pages then some .diskFull else none

theorem localSize_le_page (row : BatchRow) :
    format.localSize (format.recordSize row) ≤ SQLITE_PAGE_SIZE :=
  (format.localSize_le _).trans (by decide)

def RowLayout.largest (distinct : rows.Nodup) : RowLayout format rows where
  toPacking := apart distinct fun row _ => localSize_le_page row
  interior := rows.length / 2
  batchIdIndex := indexMost rows.length + (rows.map entryOverflow).sum
  createdAtIndex := indexMost rows.length
  others := 6
  interior_le := le_rfl
  batchIdIndex_ge := Nat.le_add_right_of_le (le_max_left _ _)
  batchIdIndex_le := le_rfl
  createdAtIndex_ge := le_max_left _ _
  createdAtIndex_le := le_rfl
  others_ge := by omega
  others_le := le_rfl

section Enqueue

variable {external : External} {limits : SpoolLimits} {args : EnqueueArgs} {tables : SpoolTables}

end Enqueue

end Pages

end FlowObservability
