import Mathlib.Data.Prod.Lex
import Mathlib.Data.String.Basic
import FlowObservability.Library.Table
import FlowObservability.Model
import FlowObservability.Sqlite

/-!
The control plane's store: ingested batches and their flow buckets in one SQLite
database, ingest with its age limit, and the node, stats and series queries.
-/

namespace FlowObservability

open Table Transaction

structure ControlLimits where
  maxDatabaseBytes : UInt64 := 128 * 1024 * 1024
  maxAgeSeconds : UInt64 := 48 * 60 * 60
  deriving DecidableEq, Repr

inductive IngestError where
  | schemaVersion
  | checksum
  | conflict
  | database (error : RusqliteError)
  | encoding (error : AnyhowError)
  deriving DecidableEq, Repr

/-- `?` on a `rusqlite::Result` in a function that fails with `IngestError`. -/
def database {α : Type} : Except RusqliteError α → Except IngestError α
  | .ok value => .ok value
  | .error error => .error (.database error)

def encoding {α : Type} : Except AnyhowError α → Except IngestError α
  | .ok value => .ok value
  | .error error => .error (.encoding error)

@[simp] theorem database_eq_ok {α : Type} {result : Except RusqliteError α} {value : α} :
    database result = .ok value ↔ result = .ok value := by
  cases result <;> simp [database]

@[simp] theorem encoding_eq_ok {α : Type} {result : Except AnyhowError α} {value : α} :
    encoding result = .ok value ↔ result = .ok value := by
  cases result <;> simp [encoding]

theorem database_avoids {α : Type} {result : Except RusqliteError α} {error : RusqliteError}
    (avoids : Avoids error result) : Avoids (.database error) (database result) := by
  cases result with
  | ok value => exact avoids_ok value
  | error other =>
      intro same
      simp only [database, Except.error.injEq, IngestError.database.injEq] at same
      exact avoids (by rw [same])

theorem encoding_avoids {α : Type} (result : Except AnyhowError α) (error : RusqliteError) :
    Avoids (.database error) (encoding result) := by
  cases result <;> simp [encoding, Avoids]

theorem encoding_bind {α β : Type} (first : Except AnyhowError α)
    (next : α → Except AnyhowError β) :
    encoding (first >>= next) = encoding first >>= fun value => encoding (next value) := by
  cases first <;> rfl

structure IngestedBatch where
  batchId : String
  checksum : String
  nodeId : String
  bootId : String
  seq : Int
  createdAt : Int
  deriving DecidableEq, Repr

structure FlowRow where
  batchId : String
  bucketStart : Int
  nodeId : String
  capturePoint : String
  direction : String
  protocol : String
  sourceIp : String
  destinationIp : String
  sourcePort : Option Int
  destinationPort : Option Int
  packets : Int
  bytes : Int
  deriving DecidableEq, Repr

structure ControlTables where
  ingestedBatches : List IngestedBatch := []
  flowBuckets : List FlowRow := []
  deriving DecidableEq, Repr

inductive ControlStatement where
  | openConnection
  | configure
  | createTables
  | begin
  | deleteFlows
  | deleteBatches
  | selectChecksum
  | selectSequence
  | insertBatch
  | insertFlow
  | commit
  | selectNodes
  | selectStats
  | selectSeries
  deriving DecidableEq, Repr

abbrev ControlFaults := Faults ControlStatement ControlTables

structure PageUse where
  pageSize : UInt64
  pageCount : UInt64
  deriving DecidableEq, Repr

def divCeil (value divisor : Nat) : Nat :=
  if value % divisor = 0 then value / divisor else value / divisor + 1

def configureControl (faults : ControlFaults) (pages : PageUse) (maxDatabaseBytes : UInt64)
    (tables : ControlTables) : Except AnyhowError Int := do
  sqlite (runs faults .configure tables)
  let maxPages := divCeil maxDatabaseBytes.toNat pages.pageSize.toNat
  if maxPages < pages.pageCount.toNat then
    .error (.message ("control database already uses " ++ toString pages.pageCount.toNat ++
      " pages, above configured limit " ++ toString maxPages))
  else
    anyhow (integer maxPages "max_page_count")

structure ControlStore where
  limits : ControlLimits
  maxPageCount : Int
  deriving DecidableEq, Repr

/-- `open` creates the tables where they are missing and leaves their rows alone. -/
def ControlStore.open (faults : ControlFaults) (pages : PageUse) (limits : ControlLimits)
    (tables : ControlTables) : Except AnyhowError ControlStore := do
  if limits.maxDatabaseBytes = 0 ∨ limits.maxAgeSeconds = 0 then
    .error (.message "control byte and age limits must be positive")
  else
    sqlite (runs faults .openConnection tables)
    let maxPageCount ← configureControl faults pages limits.maxDatabaseBytes tables
    sqlite (runs faults .createTables tables)
    return { limits, maxPageCount }

def directionKey : Direction → String
  | .ingress => "ingress"
  | .egress => "egress"
  | .internal => "internal"
  | .unknown => "unknown"

def protocolKey : TransportProtocol → String
  | .tcp => "tcp"
  | .udp => "udp"
  | .icmp => "icmp"
  | .other number => "other:" ++ toString number.toNat

def deleteFlows (faults : ControlFaults) (cutoff : Int) (tables : ControlTables) :
    Except RusqliteError ControlTables := do
  runs faults .deleteFlows tables
  let expired := (tables.ingestedBatches.filter fun row => row.createdAt < cutoff).map (·.batchId)
  return { tables with
    flowBuckets := tables.flowBuckets.filter fun row => !expired.contains row.batchId }

/-- `DELETE FROM ingested_batches`, under the foreign key of `flow_buckets`. -/
def deleteBatches (faults : ControlFaults) (cutoff : Int) (tables : ControlTables) :
    Except RusqliteError ControlTables := do
  runs faults .deleteBatches tables
  let expired := (tables.ingestedBatches.filter fun row => row.createdAt < cutoff).map (·.batchId)
  if tables.flowBuckets.any fun row => expired.contains row.batchId then
    .error constraintError
  else
    return { tables with
      ingestedBatches := tables.ingestedBatches.filter fun row => !decide (row.createdAt < cutoff) }

def controlCutoff (now maxAgeSeconds : UInt64) : Nat := now.toNat - maxAgeSeconds.toNat

def pruneExpired (faults : ControlFaults) (maxAgeSeconds now : UInt64) (tables : ControlTables) :
    Except RusqliteError ControlTables := do
  let cutoff ← toSqlError (integer (controlCutoff now maxAgeSeconds) "control cutoff")
  let tables ← deleteFlows faults cutoff tables
  deleteBatches faults cutoff tables

def selectChecksum (faults : ControlFaults) (batchId : String) (tables : ControlTables) :
    Except RusqliteError (Option String) := do
  runs faults .selectChecksum tables
  return (tables.ingestedBatches.find? fun row => row.batchId == batchId).map (·.checksum)

def sequenceTaken (nodeId bootId : String) (seq : Int) (row : IngestedBatch) : Bool :=
  row.nodeId == nodeId && row.bootId == bootId && row.seq == seq

def selectSequence (faults : ControlFaults) (nodeId bootId : String) (seq : Int)
    (tables : ControlTables) : Except RusqliteError Bool := do
  runs faults .selectSequence tables
  return tables.ingestedBatches.any (sequenceTaken nodeId bootId seq)

def insertIngested (faults : ControlFaults) (row : IngestedBatch) (tables : ControlTables) :
    Except RusqliteError ControlTables := do
  runs faults .insertBatch tables
  if tables.ingestedBatches.any fun stored =>
      stored.batchId == row.batchId || sequenceTaken row.nodeId row.bootId row.seq stored then
    .error constraintError
  else
    return { tables with ingestedBatches := tables.ingestedBatches ++ [row] }

def insertFlow (faults : ControlFaults) (row : FlowRow) (tables : ControlTables) :
    Except RusqliteError ControlTables := do
  runs faults .insertFlow tables
  if tables.ingestedBatches.any fun stored => stored.batchId == row.batchId then
    return { tables with flowBuckets := tables.flowBuckets ++ [row] }
  else
    .error constraintError

def flowParams (envelope : BatchEnvelope) (bucket : FlowBucket) : Except AnyhowError FlowRow := do
  let bucketStart ← anyhow (integer bucket.bucketStart.toNat "bucket_start")
  let packets ← anyhow (integer bucket.packets.toNat "bucket packets")
  let bytes ← anyhow (integer bucket.bytes.toNat "bucket bytes")
  return {
    batchId := envelope.batchId
    bucketStart
    nodeId := envelope.body.nodeId
    capturePoint := bucket.key.capturePoint
    direction := directionKey bucket.key.direction
    protocol := protocolKey bucket.key.protocol
    sourceIp := bucket.key.sourceIp.toText
    destinationIp := bucket.key.destinationIp.toText
    sourcePort := bucket.key.sourcePort.map fun port => (port.toNat : Int)
    destinationPort := bucket.key.destinationPort.map fun port => (port.toNat : Int)
    packets
    bytes
  }

def insertFlows (faults : ControlFaults) (envelope : BatchEnvelope) :
    List FlowBucket → ControlTables → Except IngestError ControlTables
  | [], tables => .ok tables
  | bucket :: rest, tables => do
    let row ← encoding (flowParams envelope bucket)
    let tables ← database (insertFlow faults row tables)
    insertFlows faults envelope rest tables

/-- The transaction of `ingest_at` once no stored batch has its batch id. -/
def insertEnvelope (faults : ControlFaults) (envelope : BatchEnvelope) (tables : ControlTables) :
    Except IngestError (IngestStatus × ControlTables) := do
  let seq ← encoding (anyhow (integer envelope.body.seq.toNat "batch seq"))
  let sequenceExists ← database
    (selectSequence faults envelope.body.nodeId envelope.body.bootId seq tables)
  if sequenceExists then
    .error .conflict
  else
    let createdAt ← encoding (anyhow (integer envelope.body.createdAt.toNat "batch created_at"))
    let tables ← database (insertIngested faults {
      batchId := envelope.batchId
      checksum := envelope.checksum
      nodeId := envelope.body.nodeId
      bootId := envelope.body.bootId
      seq
      createdAt
    } tables)
    let tables ← insertFlows faults envelope envelope.body.buckets tables
    database (runs faults .commit tables)
    return (.inserted, tables)

def ingestBody (faults : ControlFaults) (maxAgeSeconds : UInt64) (envelope : BatchEnvelope)
    (now : UInt64) (tables : ControlTables) :
    Except IngestError (IngestStatus × ControlTables) := do
  database (runs faults .begin tables)
  let tables ← database (pruneExpired faults maxAgeSeconds now tables)
  let existingChecksum ← database (selectChecksum faults envelope.batchId tables)
  match existingChecksum with
  | some checksum =>
    if checksum = envelope.checksum then
      database (runs faults .commit tables)
      return (.duplicate, tables)
    else
      .error .conflict
  | none => insertEnvelope faults envelope tables

def ControlStore.ingestAt (external : External) (faults : ControlFaults) (limits : ControlLimits)
    (envelope : BatchEnvelope) (now : UInt64) (tables : ControlTables) :
    Except IngestError IngestStatus × ControlTables :=
  if envelope.body.schemaVersion ≠ SCHEMA_VERSION then
    (.error .schemaVersion, tables)
  else if ¬envelope.hasValidChecksum external then
    (.error .checksum, tables)
  else
    transact (ingestBody faults limits.maxAgeSeconds envelope now) tables

def unixSeconds (clock : Option UInt64) : Except AnyhowError UInt64 :=
  match clock with
  | some now => .ok now
  | none => .error (.message
    "system clock is before Unix epoch: second time provided was later than self")

def ControlStore.ingest (external : External) (faults : ControlFaults) (limits : ControlLimits)
    (envelope : BatchEnvelope) (clock : Option UInt64) (tables : ControlTables) :
    Except IngestError IngestStatus × ControlTables :=
  match encoding (unixSeconds clock) with
  | .error error => (.error error, tables)
  | .ok now => ControlStore.ingestAt external faults limits envelope now tables

structure NodeInventoryItem where
  nodeId : String
  capturePoint : String
  firstBucketStart : UInt64
  lastBucketStart : UInt64
  deriving DecidableEq, Repr

structure ControlStats where
  batches : UInt64
  flowBuckets : UInt64
  packets : UInt64
  bytes : UInt64
  deriving DecidableEq, Repr

structure SeriesPoint where
  bucketStart : UInt64
  packets : UInt64
  bytes : UInt64
  deriving DecidableEq, Repr

/-- An aggregate column, which is NULL over no rows. -/
def unsignedAggregate (index : Nat) : Option Int → Except RusqliteError UInt64
  | some value => unsigned index value
  | none => .error (.invalidColumnType index)

def nodeItem (nodeId capturePoint : String) (rows : List FlowRow) :
    Except RusqliteError NodeInventoryItem := do
  let firstBucketStart ← unsignedAggregate 2 (rows.map (·.bucketStart)).min?
  let lastBucketStart ← unsignedAggregate 3 (rows.map (·.bucketStart)).max?
  return { nodeId, capturePoint, firstBucketStart, lastBucketStart }

/-- The columns `nodes` groups by, in the order it sorts them. -/
def FlowRow.place (row : FlowRow) : String ×ₗ String := toLex (row.nodeId, row.capturePoint)

def ControlStore.nodes (faults : ControlFaults) (tables : ControlTables) :
    Except AnyhowError (List NodeInventoryItem) := do
  sqlite (runs faults .selectNodes tables)
  sqlite ((groupBy FlowRow.place tables.flowBuckets).mapM fun group =>
    nodeItem (ofLex group.1).1 (ofLex group.1).2 group.2)

def FlowRow.matching (node : String) (capturePoint : Option String) (row : FlowRow) : Bool :=
  row.nodeId == node &&
    match capturePoint with
    | some capturePoint => row.capturePoint == capturePoint
    | none => true

/-- Without a capture point the batches are those of `ingested_batches`, with one those that
have a matching row in `flow_buckets`. -/
def countBatches (node : String) (capturePoint : Option String) (tables : ControlTables) : Nat :=
  match capturePoint with
  | some capturePoint =>
    ((tables.flowBuckets.filter (FlowRow.matching node (some capturePoint))).map
      (·.batchId)).dedup.length
  | none => (tables.ingestedBatches.filter fun row => row.nodeId == node).length

def ControlStore.stats (faults : ControlFaults) (node : String) (capturePoint : Option String)
    (tables : ControlTables) : Except AnyhowError ControlStats := do
  sqlite (runs faults .selectStats tables)
  let rows := tables.flowBuckets.filter (FlowRow.matching node capturePoint)
  let packets ← sqlite (sumOf (rows.map (·.packets)))
  let bytes ← sqlite (sumOf (rows.map (·.bytes)))
  let batches ← sqlite (unsigned 0 (countBatches node capturePoint tables))
  let flowBuckets ← sqlite (unsigned 1 rows.length)
  let packets ← sqlite (unsigned 2 packets)
  let bytes ← sqlite (unsigned 3 bytes)
  return { batches, flowBuckets, packets, bytes }

def seriesPoint (bucketStart : Int) (rows : List FlowRow) :
    Except RusqliteError SeriesPoint := do
  let packets ← sumOf (rows.map (·.packets))
  let bytes ← sumOf (rows.map (·.bytes))
  let bucketStart ← unsigned 0 bucketStart
  let packets ← unsigned 1 packets
  let bytes ← unsigned 2 bytes
  return { bucketStart, packets, bytes }

def FlowRow.within (first last : Int) (row : FlowRow) : Bool :=
  decide (first ≤ row.bucketStart) && decide (row.bucketStart ≤ last)

def ControlStore.series (faults : ControlFaults) (node : String) (capturePoint : Option String)
    («from» «to» : Option UInt64) (tables : ControlTables) :
    Except AnyhowError (List SeriesPoint) := do
  let first := «from».getD 0
  let last := «to».getD 0x7fffffffffffffff
  if last < first then
    .error (.message "from must be less than or equal to to")
  else
    let first ← anyhow (integer first.toNat "series from")
    let last ← anyhow (integer last.toNat "series to")
    sqlite (runs faults .selectSeries tables)
    let rows := tables.flowBuckets.filter fun row =>
      FlowRow.matching node capturePoint row && row.within first last
    sqlite ((groupBy (·.bucketStart) rows).mapM fun group => seriesPoint group.1 group.2)

end FlowObservability
