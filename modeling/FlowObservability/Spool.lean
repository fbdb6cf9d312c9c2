import FlowObservability.Library.Table
import FlowObservability.Model
import FlowObservability.Sqlite

/-!
The agent's spool: pending batches, gap records and the sequence counter in one
SQLite database, kept within a byte limit and an age limit.
-/

namespace FlowObservability

open Table Transaction

def SQLITE_OVERHEAD_BYTES : UInt64 := 16 * 1024 * 1024

def SQLITE_PAGE_SIZE : Nat := 4096

structure SpoolLimits where
  maxPayloadBytes : UInt64
  maxAgeSeconds : UInt64
  deriving DecidableEq, Repr

structure EnqueueResult where
  batchId : String
  evictedBatches : Nat
  deriving DecidableEq, Repr

/-- A row of `batches`. The payload column holds the bytes of a JSON text. -/
structure BatchRow where
  seq : Int
  batchId : String
  checksum : String
  createdAt : Int
  minBucket : Option Int
  maxBucket : Option Int
  payloadBytes : Int
  payload : String
  deriving DecidableEq, Repr

structure GapRow where
  seq : Int
  minBucket : Option Int
  maxBucket : Option Int
  lostBytes : Int
  reason : String
  createdAt : Int
  deriving DecidableEq, Repr

/-- The spool database. `nextSeq` is the row of `metadata` with that key. -/
structure SpoolTables where
  nextSeq : Option Int := none
  batches : List BatchRow := []
  gaps : List GapRow := []
  deriving DecidableEq, Repr

structure Spool where
  limits : SpoolLimits
  maxPageCount : Int
  deriving DecidableEq, Repr

inductive SpoolStatement where
  | openConnection
  | configure
  | createMetadata
  | createTables
  | begin
  | selectNextSeq
  | updateNextSeq
  | insertBatch
  | selectTotalBytes
  | selectCandidate
  | deleteBatch
  | insertGap
  | commit
  | selectPending
  | deleteAcknowledged
  | selectStatus
  deriving DecidableEq, Repr

abbrev SpoolFaults := Faults SpoolStatement SpoolTables

/-- `configure`: the page cap, from the sum of two `u64` values. -/
def configure (faults : SpoolFaults) (maxPayloadBytes : UInt64) (tables : SpoolTables) :
    Except AnyhowError Int := do
  sqlite (runs faults .configure tables)
  let bytes := maxPayloadBytes + SQLITE_OVERHEAD_BYTES
  let maxPages := (bytes.toNat + SQLITE_PAGE_SIZE - 1) / SQLITE_PAGE_SIZE
  anyhow (integer maxPages "max_page_count")

/-- The statements of `open` run outside a transaction, so the rows they wrote stay when
a later one fails. -/
def Spool.open (faults : SpoolFaults) (limits : SpoolLimits) (tables : SpoolTables) :
    Except AnyhowError Spool × SpoolTables :=
  if limits.maxPayloadBytes = 0 ∨ limits.maxAgeSeconds = 0 then
    (.error (.message "spool byte and age limits must be positive"), tables)
  else
    match sqlite (runs faults .openConnection tables) with
    | .error error => (.error error, tables)
    | .ok () =>
      match configure faults limits.maxPayloadBytes tables with
      | .error error => (.error error, tables)
      | .ok maxPageCount =>
        match sqlite (runs faults .createMetadata tables) with
        | .error error => (.error error, tables)
        | .ok () =>
          let created := { tables with nextSeq := some (tables.nextSeq.getD 0) }
          match sqlite (runs faults .createTables created) with
          | .error error => (.error error, created)
          | .ok () => (.ok { limits, maxPageCount }, created)

def selectNextSeq (faults : SpoolFaults) (tables : SpoolTables) : Except RusqliteError UInt64 := do
  runs faults .selectNextSeq tables
  match tables.nextSeq with
  | none => .error .queryReturnedNoRows
  | some value => unsigned 0 value

def updateNextSeq (faults : SpoolFaults) (tables : SpoolTables) :
    Except RusqliteError SpoolTables := do
  runs faults .updateNextSeq tables
  return { tables with nextSeq := tables.nextSeq.map (· + 1) }

def insertBatch (faults : SpoolFaults) (row : BatchRow) (tables : SpoolTables) :
    Except RusqliteError SpoolTables := do
  runs faults .insertBatch tables
  if tables.batches.any fun stored => stored.seq == row.seq || stored.batchId == row.batchId then
    .error (.sqliteFailure .constraintViolation)
  else
    return { tables with batches := tables.batches ++ [row] }

def insertGap (faults : SpoolFaults) (tables : SpoolTables) (seq : UInt64)
    (minBucket maxBucket : Option UInt64) (lostBytes : Nat) (reason : String)
    (createdAt : UInt64) : Except RusqliteError SpoolTables := do
  let seq ← toSqlError (integer seq.toNat "gap seq")
  let minBucket ← toSqlError (minBucket.mapM fun value => integer value.toNat "gap min_bucket")
  let maxBucket ← toSqlError (maxBucket.mapM fun value => integer value.toNat "gap max_bucket")
  let lostBytes ← toSqlError (integer lostBytes "gap lost_bytes")
  let createdAt ← toSqlError (integer createdAt.toNat "gap created_at")
  runs faults .insertGap tables
  if tables.gaps.any fun stored => stored.seq == seq then
    .error (.sqliteFailure .constraintViolation)
  else
    return { tables with
      gaps := tables.gaps ++ [{ seq, minBucket, maxBucket, lostBytes, reason, createdAt }] }

def selectTotalBytes (faults : SpoolFaults) (tables : SpoolTables) :
    Except RusqliteError UInt64 := do
  runs faults .selectTotalBytes tables
  let total ← sumOf (tables.batches.map (·.payloadBytes))
  unsigned 0 total

structure Candidate where
  seq : UInt64
  minBucket : Option UInt64
  maxBucket : Option UInt64
  payloadBytes : UInt64
  createdAt : UInt64
  deriving DecidableEq, Repr

def readCandidate (row : BatchRow) : Except RusqliteError Candidate := do
  let seq ← unsigned 0 row.seq
  let minBucket ← optionalUnsigned 1 row.minBucket
  let maxBucket ← optionalUnsigned 2 row.maxBucket
  let payloadBytes ← unsigned 3 row.payloadBytes
  let createdAt ← unsigned 4 row.createdAt
  return { seq, minBucket, maxBucket, payloadBytes, createdAt }

/-- The first row by `seq` with `created_at < cutoff OR total > max_payload_bytes`. -/
def candidateRow (cutoff total maxPayloadBytes : Int) (batches : List BatchRow) :
    Option BatchRow :=
  (orderBy (·.seq) (batches.filter fun row =>
    decide (row.createdAt < cutoff) || decide (maxPayloadBytes < total))).head?

def selectCandidate (faults : SpoolFaults) (cutoff total maxPayloadBytes : Int)
    (tables : SpoolTables) : Except RusqliteError (Option Candidate) := do
  runs faults .selectCandidate tables
  match candidateRow cutoff total maxPayloadBytes tables.batches with
  | none => return none
  | some row => do
    let candidate ← readCandidate row
    return some candidate

def deleteBatch (faults : SpoolFaults) (seq : Int) (tables : SpoolTables) :
    Except RusqliteError SpoolTables := do
  runs faults .deleteBatch tables
  return { tables with batches := tables.batches.filter fun row => row.seq != seq }

def evictionReason (createdAt cutoff : Nat) : String :=
  if createdAt < cutoff then "spool_age_limit" else "spool_byte_limit"

/-- The body of the `loop` in `enforce_limits` up to the next round: `none` when no row is
left to evict. -/
def evictOne (faults : SpoolFaults) (cutoff : Nat) (cutoffSql maxPayloadBytesSql : Int)
    (now : UInt64) (tables : SpoolTables) : Except AnyhowError (Option SpoolTables) := do
  let totalBytes ← sqlite (selectTotalBytes faults tables)
  let totalBytesSql ← anyhow (integer totalBytes.toNat "total_payload_bytes")
  let candidate ← sqlite (selectCandidate faults cutoffSql totalBytesSql maxPayloadBytesSql tables)
  match candidate with
  | none => return none
  | some row => do
    let reason := evictionReason row.createdAt.toNat cutoff
    let seq ← anyhow (integer row.seq.toNat "seq")
    let tables ← sqlite (deleteBatch faults seq tables)
    let tables ← sqlite (insertGap faults tables row.seq row.minBucket row.maxBucket
      row.payloadBytes.toNat reason now)
    return some tables

/-- The `loop`. A round deletes a row, so one round more than there are rows suffices. -/
def evictFrom (faults : SpoolFaults) (cutoff : Nat) (cutoffSql maxPayloadBytesSql : Int)
    (now : UInt64) : Nat → Nat → SpoolTables → Except AnyhowError (Nat × SpoolTables)
  | 0, evicted, tables => .ok (evicted, tables)
  | rounds + 1, evicted, tables => do
    match ← evictOne faults cutoff cutoffSql maxPayloadBytesSql now tables with
    | none => return (evicted, tables)
    | some tables => evictFrom faults cutoff cutoffSql maxPayloadBytesSql now rounds (evicted + 1) tables

def ageCutoff (now maxAgeSeconds : UInt64) : Nat := now.toNat - maxAgeSeconds.toNat

def enforceLimits (faults : SpoolFaults) (limits : SpoolLimits) (now : UInt64)
    (tables : SpoolTables) : Except AnyhowError (Nat × SpoolTables) := do
  let cutoff := ageCutoff now limits.maxAgeSeconds
  let cutoffSql ← anyhow (integer cutoff "spool cutoff")
  let maxPayloadBytesSql ← anyhow (integer limits.maxPayloadBytes.toNat "max_payload_bytes")
  evictFrom faults cutoff cutoffSql maxPayloadBytesSql now (tables.batches.length + 1) 0 tables

def bucketRange (buckets : List FlowBucket) : Option UInt64 × Option UInt64 :=
  ((buckets.map (·.bucketStart)).min?, (buckets.map (·.bucketStart)).max?)

def batchParams (envelope : BatchEnvelope) : Except String BatchRow := do
  let payload := toVec envelope
  let (minBucket, maxBucket) := bucketRange envelope.body.buckets
  let seq ← integer envelope.body.seq.toNat "seq"
  let createdAt ← integer envelope.body.createdAt.toNat "created_at"
  let minBucket ← minBucket.mapM fun value => integer value.toNat "min_bucket"
  let maxBucket ← maxBucket.mapM fun value => integer value.toNat "max_bucket"
  let payloadBytes ← integer payload.utf8ByteSize "payload_bytes"
  return {
    seq
    batchId := envelope.batchId
    checksum := envelope.checksum
    createdAt
    minBucket
    maxBucket
    payloadBytes
    payload
  }

def storeEnvelope (faults : SpoolFaults) (limits : SpoolLimits) (envelope : BatchEnvelope)
    (tables : SpoolTables) : Except AnyhowError (EnqueueResult × SpoolTables) := do
  let payloadBytes := (toVec envelope).utf8ByteSize
  let (minBucket, maxBucket) := bucketRange envelope.body.buckets
  if limits.maxPayloadBytes.toNat < payloadBytes then
    let tables ← sqlite (insertGap faults tables envelope.body.seq minBucket maxBucket payloadBytes
      "batch_exceeds_spool_limit" envelope.body.createdAt)
    sqlite (runs faults .commit tables)
    return ({ batchId := envelope.batchId, evictedBatches := 1 }, tables)
  else
    let row ← anyhow (batchParams envelope)
    let tables ← sqlite (insertBatch faults row tables)
    let (evictedBatches, tables) ← enforceLimits faults limits envelope.body.createdAt tables
    sqlite (runs faults .commit tables)
    return ({ batchId := envelope.batchId, evictedBatches }, tables)

structure EnqueueArgs where
  nodeId : String
  bootId : String
  createdAt : UInt64
  buckets : List FlowBucket
  diagnostics : CaptureDiagnostics
  deriving DecidableEq, Repr

def EnqueueArgs.envelope (external : External) (args : EnqueueArgs) (seq : UInt64) :
    BatchEnvelope :=
  BatchEnvelope.new external args.nodeId args.bootId seq args.createdAt args.buckets
    args.diagnostics

def enqueueBody (external : External) (faults : SpoolFaults) (limits : SpoolLimits)
    (args : EnqueueArgs) (tables : SpoolTables) :
    Except AnyhowError (EnqueueResult × SpoolTables) := do
  sqlite (runs faults .begin tables)
  let seq ← sqlite (selectNextSeq faults tables)
  let tables ← sqlite (updateNextSeq faults tables)
  storeEnvelope faults limits (args.envelope external seq) tables

def Spool.enqueue (external : External) (faults : SpoolFaults) (limits : SpoolLimits)
    (args : EnqueueArgs) (tables : SpoolTables) :
    Except AnyhowError EnqueueResult × SpoolTables :=
  transact (enqueueBody external faults limits args) tables

def decodePending (external : External) (row : BatchRow) : Except AnyhowError BatchEnvelope :=
  match external.fromSlice row.payload with
  | some envelope => .ok envelope
  | none => .error (.message "decode pending batch")

def Spool.pending (external : External) (faults : SpoolFaults) (limit : Nat)
    (tables : SpoolTables) : Except AnyhowError (List BatchEnvelope) := do
  if 2 ^ 63 ≤ limit then
    .error (.message "out of range integral type conversion attempted")
  else
    sqlite (runs faults .selectPending tables)
    ((orderBy (·.seq) tables.batches).take limit).mapM (decodePending external)

def matchesAck (batchId checksum : String) (row : BatchRow) : Bool :=
  row.batchId == batchId && row.checksum == checksum

/-- `acknowledge`: one statement outside a transaction, so its deletions stay even when
their number is refused. -/
def Spool.acknowledge (faults : SpoolFaults) (batchId checksum : String) (tables : SpoolTables) :
    Except AnyhowError Unit × SpoolTables :=
  match sqlite (runs faults .deleteAcknowledged tables) with
  | .error error => (.error error, tables)
  | .ok () =>
    let deleted := (tables.batches.filter (matchesAck batchId checksum)).length
    let tables := { tables with
      batches := tables.batches.filter fun row => !matchesAck batchId checksum row }
    if deleted ≠ 1 then (.error (.message "ack does not match a pending batch"), tables)
    else (.ok (), tables)

structure SpoolStatus where
  pendingBatches : UInt64
  pendingPayloadBytes : UInt64
  gapEvents : UInt64
  deriving DecidableEq, Repr

def Spool.status (faults : SpoolFaults) (tables : SpoolTables) :
    Except AnyhowError SpoolStatus := do
  sqlite (runs faults .selectStatus tables)
  let total ← sqlite (sumOf (tables.batches.map (·.payloadBytes)))
  let pendingBatches ← sqlite (unsigned 0 tables.batches.length)
  let pendingPayloadBytes ← sqlite (unsigned 1 total)
  let gapEvents ← sqlite (unsigned 2 tables.gaps.length)
  return { pendingBatches, pendingPayloadBytes, gapEvents }

end FlowObservability
