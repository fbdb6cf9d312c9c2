import FlowObservability.ControlRefinement
import FlowObservability.Library.Words
import FlowObservability.SpoolAccount
import FlowObservability.Upload

/-!
What the control plane makes of a batch the spool has admitted: two lists of checks written
separately, and the batches in their difference.
-/

namespace FlowObservability

open Runs Table Transaction

section Spool

variable {external : External} {enqueued : List BatchEnvelope} {acknowledged : List BatchRow}
  {tables next : SpoolTables} {limits : SpoolLimits} {envelope : BatchEnvelope}

theorem bucketRange_bound {buckets : List FlowBucket} {field : String} {column : Option Int}
    (result : ((bucketRange buckets).2.mapM fun value => integer value.toNat field) =
      .ok column) : ∀ bucket ∈ buckets, bucket.bucketStart.toNat < 2 ^ 63 := by
  intro bucket member
  have start : bucket.bucketStart ∈ buckets.map (·.bucketStart) := List.mem_map_of_mem member
  cases latest : (bucketRange buckets).2 with
  | none =>
      rw [List.max?_eq_none_iff.mp latest] at start
      simp at start
  | some last =>
      rw [latest] at result
      obtain ⟨_, stored, _⟩ := bind_ok result
      have below : bucket.bucketStart ≤ last := (List.max?_eq_some_iff.mp latest).2 _ start
      exact Nat.lt_of_le_of_lt (UInt64.le_iff_toNat_le.mp below) (integer_ok stored).2

structure BatchEnvelope.SpoolChecked (envelope : BatchEnvelope) : Prop where
  seq : envelope.body.seq.toNat < 2 ^ 63
  createdAt : envelope.body.createdAt.toNat < 2 ^ 63
  starts : ∀ bucket ∈ envelope.body.buckets, bucket.bucketStart.toNat < 2 ^ 63

theorem batchParams_checked {row : BatchRow} (result : batchParams envelope = .ok row) :
    envelope.SpoolChecked := by
  obtain ⟨seq, seqStored, result⟩ := bind_ok result
  obtain ⟨createdAt, createdStored, result⟩ := bind_ok result
  obtain ⟨minBucket, _, result⟩ := bind_ok result
  obtain ⟨maxBucket, maxStored, _⟩ := bind_ok result
  exact ⟨(integer_ok seqStored).2, (integer_ok createdStored).2, bucketRange_bound maxStored⟩

theorem Stored.pending (accounts : Accounts external enqueued acknowledged tables)
    (isSealed : envelope.Sealed external) (fresh : envelope.body.seq.toNat = enqueued.length)
    {counter : Option Int} {evicted : Nat}
    (stored : Stored limits envelope { tables with nextSeq := counter } evicted next)
    {row : BatchRow} (member : row ∈ next.batches) (batchId : row.batchId = envelope.batchId) :
    row = batchRow envelope ∧ envelope.SpoolChecked := by
  have notBefore : row ∉ tables.batches :=
    fun old => (accounts.batch_ne_fresh fresh isSealed row old).2 batchId
  cases stored with
  | oversized tooLarge => exact absurd member notBefore
  | kept fits params evictions settled =>
      rcases List.mem_append.mp (evictions.batches_subset member) with old | new
      · exact absurd old notBefore
      · exact ⟨List.mem_singleton.mp new, batchParams_checked params⟩

end Spool

section Route

variable {external : External} {faults : ControlFaults} {limits : ControlLimits}
variable {clock : Option UInt64} {request : String} {envelope : BatchEnvelope}

theorem ingestRoute_ack_iff {tables : ControlTables}
    (decodes : external.fromSlice request = some envelope) :
    (∃ ack, (ingestRoute external faults limits clock request tables).1 = .ack ack) ↔
      request.utf8ByteSize ≤ DEFAULT_BODY_LIMIT ∧ ∃ now status, clock = some now ∧
        (ControlStore.ingestAt external faults limits envelope now tables).1 = .ok status := by
  unfold ingestRoute
  by_cases long : DEFAULT_BODY_LIMIT < request.utf8ByteSize
  · simp [long, JsonRejection.response_ne_ack]
  · simp only [if_neg long, decodes, Nat.not_lt.mp long, true_and]
    constructor
    · rintro ⟨ack, response⟩
      have answered := (ingestResponse_ack response).1
      cases clock with
      | none => simp [ControlStore.ingest, unixSeconds, encoding] at answered
      | some now => exact ⟨now, ack.status, rfl, answered⟩
    · rintro ⟨now, status, rfl, answered⟩
      refine ⟨{ batchId := envelope.batchId, status }, ?_⟩
      simp only [ControlStore.ingest, unixSeconds, encoding, answered, ingestResponse]

theorem Ledger.empty_ingestAt_iff (valid : envelope.Valid external) (now : UInt64) :
    (∃ status, (Ledger.empty.ingestAt external limits envelope now).1 = .ok status) ↔
      controlCutoff now limits.maxAgeSeconds < 2 ^ 63 ∧ envelope.InRange := by
  constructor
  · rintro ⟨status, answered⟩
    obtain ⟨_, bound, ingested⟩ := Ledger.ingestAt_ok (eq_of_fst answered)
    refine ⟨bound, ?_⟩
    generalize (Ledger.empty.ingestAt external limits envelope now).2 = next at ingested
    cases ingested with
    | duplicate stored _ _ => simp [Ledger.empty, Ledger.prune] at stored
    | inserted free inRange => exact inRange
  · rintro ⟨bound, inRange⟩
    have free : (Ledger.empty.prune (controlCutoff now limits.maxAgeSeconds)).Free envelope := by
      constructor <;> simp [Ledger.empty, Ledger.prune]
    rw [Ledger.ingestAt_of_valid valid, transact_of_ok (Ledger.ingest_inserted bound free inRange)]
    exact ⟨.inserted, rfl⟩

/-- The checks of the control plane that the spool does not make. -/
structure BatchEnvelope.Admissible (limits : ControlLimits) (clock : Option UInt64)
    (envelope : BatchEnvelope) : Prop where
  length : (uploadBody envelope).utf8ByteSize ≤ DEFAULT_BODY_LIMIT
  counts : ∀ bucket ∈ envelope.body.buckets,
    bucket.packets.toNat < 2 ^ 63 ∧ bucket.bytes.toNat < 2 ^ 63
  clock : ∃ now, clock = some now ∧ controlCutoff now limits.maxAgeSeconds < 2 ^ 63

theorem BatchEnvelope.SpoolChecked.inRange_iff (checked : envelope.SpoolChecked) :
    envelope.InRange ↔ ∀ bucket ∈ envelope.body.buckets,
      bucket.packets.toNat < 2 ^ 63 ∧ bucket.bytes.toNat < 2 ^ 63 := by
  constructor
  · intro inRange bucket member
    exact (inRange.buckets bucket member).2
  · intro counts
    refine ⟨checked.seq, checked.createdAt, ?_⟩
    exact fun bucket member => ⟨checked.starts bucket member, counts bucket member⟩

theorem BatchEnvelope.SpoolChecked.admitted_iff (checked : envelope.SpoolChecked)
    (valid : envelope.Valid external)
    (decodes : external.fromSlice (uploadBody envelope) = some envelope) :
    (∃ ack, (ingestRoute external noFaults limits clock (uploadBody envelope) {}).1 = .ack ack) ↔
      envelope.Admissible limits clock := by
  have empty : ({} : ControlTables) = Ledger.empty.tables := rfl
  rw [ingestRoute_ack_iff decodes]
  constructor
  · rintro ⟨length, now, status, present, answered⟩
    rw [empty, ingestAt_noFaults] at answered
    obtain ⟨bound, inRange⟩ := (Ledger.empty_ingestAt_iff valid now).mp ⟨status, answered⟩
    exact ⟨length, checked.inRange_iff.mp inRange, now, present, bound⟩
  · rintro ⟨length, counts, now, present, bound⟩
    obtain ⟨status, answered⟩ :=
      (Ledger.empty_ingestAt_iff valid now).mpr ⟨bound, checked.inRange_iff.mpr counts⟩
    refine ⟨length, now, status, present, ?_⟩
    rw [empty, ingestAt_noFaults]
    exact answered

end Route

/-- What the JSON library is trusted with: an envelope is read back from either of its texts. -/
structure BatchEnvelope.RoundTrips (external : External) (envelope : BatchEnvelope) : Prop where
  payload : external.fromSlice (toVec envelope) = some envelope
  upload : external.fromSlice (uploadBody envelope) = some envelope

/-- A batch that `enqueue` left pending is read back from the spool, and an empty control store
answers its upload with an ack exactly when it passes the checks only the control plane makes. -/
theorem pending_batch_admitted_iff (external : External) (calls : List SpoolCall)
    (faults : SpoolFaults) (limits : SpoolLimits) (args : EnqueueArgs) (value : EnqueueResult)
    (next : SpoolTables) (row : BatchRow) (controlLimits : ControlLimits) (clock : Option UInt64)
    (result : Spool.enqueue external faults limits args (SpoolHistory.run external calls).tables =
      (.ok value, next))
    (pending : row ∈ next.batches) (batchId : row.batchId = value.batchId)
    (roundTrips : ((SpoolHistory.run external calls).tables.nextEnvelope external args).RoundTrips
      external) :
    ∃ envelope, decodePending external row = .ok envelope ∧
      ((∃ ack, (ingestRoute external noFaults controlLimits clock (uploadBody envelope) {}).1 =
          .ack ack) ↔
        envelope.Admissible controlLimits clock) := by
  have accounted := SpoolHistory.run_accounted external calls
  obtain ⟨fresh, sameId, stored⟩ := accounted.enqueue_ok result
  have isSealed : ((SpoolHistory.run external calls).tables.nextEnvelope external args).Sealed
      external := BatchEnvelope.new_sealed ..
  obtain ⟨rowEq, checked⟩ :=
    stored.pending accounted.accounts isSealed fresh pending (batchId.trans sameId)
  refine ⟨(SpoolHistory.run external calls).tables.nextEnvelope external args, ?_,
    checked.admitted_iff isSealed.isValid roundTrips.upload⟩
  simp [decodePending, rowEq, batchRow, roundTrips.payload]

/-! One bucket of one packet, and one whose counter does not fit an INTEGER column. -/

def countedBatch (packets : UInt64) : EnqueueArgs where
  nodeId := "n"
  bootId := "b"
  createdAt := 100
  buckets := [{
    bucketStart := 100
    key := {
      capturePoint := "p"
      direction := .egress
      protocol := .tcp
      sourceIp := .v4 10 0 0 1
      destinationIp := .v4 1 1 1 1
      sourcePort := some 5
      destinationPort := none
    }
    packets
    bytes := 100
  }]
  diagnostics := {}

def oneDigest : Vector UInt8 32 :=
  ⟨#[239, 58, 8, 242, 202, 140, 53, 208, 168, 182, 38, 100, 41, 58, 26, 244, 155,
    197, 234, 180, 176, 162, 138, 141, 134, 189, 247, 101, 137, 166, 152, 218], rfl⟩

def wideDigest : Vector UInt8 32 :=
  ⟨#[97, 35, 156, 63, 178, 44, 40, 239, 241, 113, 160, 66, 240, 93, 203, 1, 74,
    61, 108, 246, 84, 230, 49, 26, 198, 86, 4, 195, 9, 233, 76, 129], rfl⟩

def countedDigests (packets : UInt64) (digest : Vector UInt8 32) :
    List (String × Vector UInt8 32) :=
  [(((countedBatch packets).envelope (External.ofTable [] []) 0).body.toJson.render, digest)]

def countedEnvelope (packets : UInt64) (digest : Vector UInt8 32) : BatchEnvelope :=
  (countedBatch packets).envelope (External.ofTable (countedDigests packets digest) []) 0

def countedExternal (envelope : BatchEnvelope) (packets : UInt64) (digest : Vector UInt8 32) :
    External :=
  External.ofTable (countedDigests packets digest)
    [(toVec envelope, envelope), (uploadBody envelope, envelope)]

def oneEnvelope : BatchEnvelope := countedEnvelope 1 oneDigest

def oneExternal : External := countedExternal oneEnvelope 1 oneDigest

def wideEnvelope : BatchEnvelope := countedEnvelope (2 ^ 63) wideDigest

def wideExternal : External := countedExternal wideEnvelope (2 ^ 63) wideDigest

def countedLimits : SpoolLimits := { maxPayloadBytes := 10000, maxAgeSeconds := 1000 }

def countedCalls : List SpoolCall := [.open noFaults countedLimits]

/-- The spool takes the batch and keeps it pending; the control plane answers it with an error,
at which `upload_once` returns. -/
theorem wide_counter_blocks_upload :
    (Spool.enqueue wideExternal noFaults countedLimits (countedBatch (2 ^ 63))
        (SpoolHistory.run wideExternal countedCalls).tables).1 =
      .ok { batchId := wideEnvelope.batchId, evictedBatches := 0 } ∧
    (Spool.enqueue wideExternal noFaults countedLimits (countedBatch (2 ^ 63))
        (SpoolHistory.run wideExternal countedCalls).tables).2.batches.map
          (decodePending wideExternal) = [.ok wideEnvelope] ∧
    (ingestRoute wideExternal noFaults {} (some 100) (uploadBody wideEnvelope)
        {}).1 = .failure .internalServerError (.display (.encoding
          (.message "bucket packets exceeds SQLite INTEGER range"))) ∧
    ∀ status text, readAck wideEnvelope (.failure status text) =
      .error (.message ("upload batch " ++ wideEnvelope.batchId)) := by
  refine ⟨?_, ?_, ?_, fun _ _ => rfl⟩
  · decide +kernel
  · decide +kernel
  · decide +kernel

theorem pending_batch_admitted_iff_countedBatch :
    ∃ envelope, decodePending oneExternal (batchRow oneEnvelope) = .ok envelope ∧
      ∃ ack, (ingestRoute oneExternal noFaults {} (some 100) (uploadBody envelope) {}).1 =
        .ack ack := by
  have accepted : (Spool.enqueue oneExternal noFaults countedLimits (countedBatch 1)
      (SpoolHistory.run oneExternal countedCalls).tables).1 =
        .ok { batchId := oneEnvelope.batchId, evictedBatches := 0 } := by
    decide +kernel
  have texts : oneEnvelope.RoundTrips oneExternal := ⟨by decide +kernel, by decide +kernel⟩
  obtain ⟨envelope, decoded, admitted⟩ := pending_batch_admitted_iff oneExternal countedCalls
    noFaults countedLimits (countedBatch 1) _ _ (batchRow oneEnvelope) {} (some 100)
    (eq_of_fst accepted) (by decide +kernel) rfl texts
  have same : envelope = oneEnvelope := by
    have read : decodePending oneExternal (batchRow oneEnvelope) = .ok oneEnvelope := by
      simp [decodePending, batchRow, texts.payload]
    exact Except.ok.inj (decoded.symm.trans read)
  refine ⟨envelope, decoded, admitted.mpr ?_⟩
  rw [same]
  exact ⟨by decide +kernel, by decide +kernel, 100, rfl, by decide⟩

end FlowObservability
