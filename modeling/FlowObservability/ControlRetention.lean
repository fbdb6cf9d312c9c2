import FlowObservability.ControlHistory

/-!
The age limit of the control store. It is enforced before an envelope is inserted and
not after, so that an envelope that has expired on arrival is stored.
-/

namespace FlowObservability

open Table Transaction

/-- What the age limit asks of the tables after a successful call: no expired batch, no flow row
without an unexpired batch, and of an expired envelope nothing but the pruning. -/
structure IngestCall.Retains (call : IngestCall) (before after : ControlTables) : Prop where
  batches : ∀ row ∈ after.ingestedBatches, (call.cutoff : Int) ≤ row.createdAt
  flows : ∀ row ∈ after.flowBuckets, ∃ batch ∈ after.ingestedBatches,
    batch.batchId = row.batchId ∧ (call.cutoff : Int) ≤ batch.createdAt
  expired : call.envelope.body.createdAt.toNat < call.cutoff →
    pruneExpired noFaults call.limits.maxAgeSeconds call.now before = .ok after

section Retention

variable {external : External} {ledger : Ledger} {call : IngestCall} {status : IngestStatus}

theorem Ledger.retained {cutoff : Nat}
    (recent : ∀ envelope ∈ ledger.stored, cutoff ≤ envelope.body.createdAt.toNat) :
    (∀ row ∈ ledger.tables.ingestedBatches, (cutoff : Int) ≤ row.createdAt) ∧
      ∀ row ∈ ledger.tables.flowBuckets, ∃ batch ∈ ledger.tables.ingestedBatches,
        batch.batchId = row.batchId ∧ (cutoff : Int) ≤ batch.createdAt := by
  have batchRecent : ∀ envelope ∈ ledger.stored, (cutoff : Int) ≤ (ingestedBatch envelope).createdAt :=
    fun envelope member => Int.ofNat_le.mpr (recent envelope member)
  constructor
  · intro row member
    obtain ⟨envelope, stored, rfl⟩ := List.mem_map.mp member
    exact batchRecent envelope stored
  · intro row member
    obtain ⟨envelope, stored, belongs⟩ := List.mem_flatMap.mp member
    exact ⟨ingestedBatch envelope, List.mem_map_of_mem stored,
      (batchId_of_mem_flowRows belongs).symm, batchRecent envelope stored⟩

theorem Ledger.prune_recent {cutoff : Nat} :
    ∀ envelope ∈ (ledger.prune cutoff).stored, cutoff ≤ envelope.body.createdAt.toNat :=
  fun _ member => by simpa using (List.mem_filter.mp member).2

theorem duplicate_retains (bound : call.cutoff < 2 ^ 63) :
    call.Retains ledger.tables (ledger.prune call.cutoff).tables where
  batches := (Ledger.retained Ledger.prune_recent).1
  flows := (Ledger.retained Ledger.prune_recent).2
  expired _ := pruneExpired_tables ledger bound

theorem inserted_retains_iff (free : (ledger.prune call.cutoff).Free call.envelope)
    (inRange : call.envelope.InRange) :
    call.Retains ledger.tables ((ledger.prune call.cutoff).add call.envelope).tables ↔
      call.cutoff ≤ call.envelope.body.createdAt.toNat := by
  have stored := Ledger.add_stored free inRange
  constructor
  · intro retains
    have added : ingestedBatch call.envelope ∈
        ((ledger.prune call.cutoff).add call.envelope).tables.ingestedBatches :=
      List.mem_map_of_mem (by simp [stored])
    exact Int.ofNat_le.mp (retains.batches _ added)
  · intro recent
    have allRecent : ∀ envelope ∈ ((ledger.prune call.cutoff).add call.envelope).stored,
        call.cutoff ≤ envelope.body.createdAt.toNat := by
      intro envelope member
      rw [stored] at member
      rcases List.mem_append.mp member with kept | added
      · exact Ledger.prune_recent envelope kept
      · exact List.mem_singleton.mp added ▸ recent
    exact ⟨(Ledger.retained allRecent).1, (Ledger.retained allRecent).2,
      fun expired => absurd recent (Nat.not_le.mpr expired)⟩

def IngestCall.Known (call : IngestCall) (tables : ControlTables) : Prop :=
  ∃ row ∈ tables.ingestedBatches, (call.cutoff : Int) ≤ row.createdAt ∧
    row.batchId = call.envelope.batchId

theorem IngestCall.known_iff :
    call.Known ledger.tables ↔
      call.envelope.batchId ∈ (ledger.prune call.cutoff).stored.map (·.batchId) := by
  simp [Known, Ledger.tables, Ledger.prune, ingestedBatch, and_assoc]

theorem Ingested.retains_iff {next : Ledger} (bound : call.cutoff < 2 ^ 63)
    (ingested : Ingested (ledger.prune call.cutoff) call.envelope status next) :
    call.Retains ledger.tables next.tables ↔
      call.cutoff ≤ call.envelope.body.createdAt.toNat ∨ call.Known ledger.tables := by
  cases ingested with
  | @duplicate stored member same checksum =>
      have known : call.Known ledger.tables :=
        call.known_iff.mpr (List.mem_map.mpr ⟨stored, member, same⟩)
      exact iff_of_true (duplicate_retains bound) (.inr known)
  | inserted free inRange =>
      have unknown : ¬call.Known ledger.tables := fun known => free.batchId (call.known_iff.mp known)
      rw [inserted_retains_iff free inRange]
      simp [unknown]

end Retention

/-- After a successful call in any reachable state the age limit holds exactly when the envelope
has not expired or repeats the batch id of an unexpired batch. -/
theorem ingest_retains_iff (external : External) (calls : List IngestCall) (call : IngestCall)
    (status : IngestStatus)
    (result : (call.outcome external (ControlHistory.run external calls).tables).1 = .ok status) :
    call.Retains (ControlHistory.run external calls).tables
        (call.outcome external (ControlHistory.run external calls).tables).2 ↔
      call.cutoff ≤ call.envelope.body.createdAt.toNat ∨
        call.Known (ControlHistory.run external calls).tables := by
  obtain ⟨ledger, tables, _⟩ := run_represented external calls
  rw [tables] at result ⊢
  obtain ⟨next, same, ingested⟩ := ingestAt_ok (eq_of_fst result)
  obtain ⟨_, bound, ingested⟩ := Ledger.ingestAt_ok ingested
  have iff := ingested.retains_iff bound
  rw [← same] at iff
  exact iff

/-! A batch of one bucket, delivered on time and again after it expired. -/

def retriedBatch (external : External) : BatchEnvelope :=
  BatchEnvelope.new external "r" "b" 0 100 [{
    bucketStart := 100
    key := {
      capturePoint := "p"
      direction := .egress
      protocol := .tcp
      sourceIp := .v4 10 0 0 1
      destinationIp := .v4 1 1 1 1
      sourcePort := some 5
      destinationPort := none
    }
    packets := 1
    bytes := 100
  }] {}

def retryExternal : External := External.ofTable [
    ((retriedBatch (External.ofTable [] [])).body.toJson.render,
      ⟨#[202, 227, 195, 228, 101, 50, 68, 56, 56, 86, 146, 190, 116, 72, 199, 37, 128, 100, 9,
      225, 197, 148, 244, 242, 74, 21, 126, 171, 24, 250, 252, 230], rfl⟩)] []

def firstDelivery : IngestCall := { envelope := retriedBatch retryExternal, now := 100 }

def lateRetry : IngestCall := { envelope := retriedBatch retryExternal, now := 172901 }

/-- The retry finds its batch expired, prunes it and stores it again. -/
theorem late_retry_stores_expired_batch :
    (lateRetry.outcome retryExternal (ControlHistory.run retryExternal [firstDelivery]).tables).1 =
        .ok .inserted ∧
      ¬lateRetry.Retains (ControlHistory.run retryExternal [firstDelivery]).tables
        (lateRetry.outcome retryExternal
          (ControlHistory.run retryExternal [firstDelivery]).tables).2 := by
  refine ⟨by decide +kernel, ?_⟩
  intro retains
  have kept : ∃ row ∈ (lateRetry.outcome retryExternal
      (ControlHistory.run retryExternal [firstDelivery]).tables).2.ingestedBatches,
        ¬(lateRetry.cutoff : Int) ≤ row.createdAt := by
    decide +kernel
  obtain ⟨row, member, expired⟩ := kept
  exact expired (retains.batches row member)

theorem ingest_retains_iff_firstDelivery :
    firstDelivery.Retains {} (firstDelivery.outcome retryExternal {}).2 := by
  have accepted : (firstDelivery.outcome retryExternal
      (ControlHistory.run retryExternal []).tables).1 = .ok .inserted := by
    decide +kernel
  exact (ingest_retains_iff retryExternal [] firstDelivery .inserted accepted).mpr
    (.inl (by decide))

end FlowObservability
