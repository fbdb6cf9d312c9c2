import FlowObservability.ControlLedger

/-!
The control store refines the ledger: its tables are a ledger written out in rows, and
ingesting on the tables ends as ingesting into the ledger does, unless the engine fails.
-/

namespace FlowObservability

open Table Transaction

/-! Ingest on the tables follows ingest on the ledger. -/

section Simulation

variable {faults : ControlFaults}

def IngestFailure (faults : ControlFaults) (error : IngestError) : Prop :=
  ∃ cause, EngineFailure faults cause ∧ error = .database cause

theorem database_follows {α β : Type} {related : α → β → Prop} {result : Except RusqliteError α}
    {ideal : Except RusqliteError β} (follows : Follows (EngineFailure faults) related result ideal) :
    Follows (IngestFailure faults) related (database result) (database ideal) := by
  cases follows with
  | ok same => exact .ok same
  | error error => exact .error _
  | failed broken => exact .failed ⟨_, broken, rfl⟩

theorem encoding_integer_follows (value : Nat) (field : String) :
    Follows (IngestFailure faults) (fun column _ => column = (value : Int) ∧ value < 2 ^ 63)
      (encoding (anyhow (integer value field))) (encoding (anyhow (integer value field))) := by
  cases converted : integer value field with
  | ok column => exact .ok (integer_ok converted)
  | error text => exact .error _

theorem toSqlError_integer_follows (value : Nat) (field : String) :
    Follows (EngineFailure faults) (fun column _ => column = (value : Int))
      (toSqlError (integer value field)) (toSqlError (integer value field)) := by
  cases converted : integer value field with
  | ok column => exact .ok (integer_ok converted).1
  | error text => exact .error _

def expiredIds (cutoff : Int) (tables : ControlTables) : List String :=
  (tables.ingestedBatches.filter fun row => row.createdAt < cutoff).map (·.batchId)

theorem mem_expiredIds {ledger : Ledger} {envelope : BatchEnvelope}
    (member : envelope ∈ ledger.stored) (cutoff : Nat) :
    envelope.batchId ∈ expiredIds cutoff ledger.tables ↔
      envelope.body.createdAt.toNat < cutoff := by
  simp only [expiredIds, Ledger.tables, List.mem_map, List.mem_filter]
  constructor
  · rintro ⟨_, ⟨⟨other, stored, rfl⟩, old⟩, same⟩
    have equal : other = envelope := List.inj_on_of_nodup_map ledger.batchIds stored member same
    subst equal
    simpa [ingestedBatch] using old
  · intro old
    exact ⟨ingestedBatch envelope, ⟨⟨envelope, member, rfl⟩, by simpa [ingestedBatch]⟩, rfl⟩

theorem tables_prune_flows (ledger : Ledger) (cutoff : Nat) :
    ledger.tables.flowBuckets.filter (fun row =>
      !(expiredIds cutoff ledger.tables).contains row.batchId) =
      (ledger.prune cutoff).tables.flowBuckets := by
  apply filter_flatMap
  intro envelope member row belongs
  have expired := mem_expiredIds member cutoff
  rw [batchId_of_mem_flowRows belongs, Bool.eq_iff_iff]
  simp [expired]

theorem tables_prune_batches (ledger : Ledger) (cutoff : Nat) :
    ledger.tables.ingestedBatches.filter (fun row => !decide (row.createdAt < (cutoff : Int))) =
      (ledger.prune cutoff).tables.ingestedBatches := by
  simp only [Ledger.tables, Ledger.prune, List.filter_map]
  congr 1
  apply List.filter_congr
  intro envelope _
  rw [Bool.eq_iff_iff]
  simp [ingestedBatch]

def Ledger.withoutExpiredFlows (ledger : Ledger) (cutoff : Nat) : ControlTables :=
  { ledger.tables with flowBuckets := (ledger.prune cutoff).tables.flowBuckets }

theorem deleteFlows_follows (ledger : Ledger) (cutoff : Nat) :
    Follows (EngineFailure faults) (fun tables _ => tables = ledger.withoutExpiredFlows cutoff)
      (deleteFlows faults cutoff ledger.tables) (.ok () : Except RusqliteError Unit) := by
  unfold deleteFlows
  apply (runs_follows _ _).skip
  intro _ _
  refine .ok ?_
  rw [Ledger.withoutExpiredFlows, ← tables_prune_flows]
  rfl

theorem no_expired_flows (ledger : Ledger) (cutoff : Nat) :
    ((ledger.withoutExpiredFlows cutoff).flowBuckets.any fun row =>
      (expiredIds cutoff ledger.tables).contains row.batchId) = false := by
  rw [List.any_eq_false]
  intro row member
  obtain ⟨envelope, kept, belongs⟩ := List.mem_flatMap.mp member
  obtain ⟨stored, recent⟩ := List.mem_filter.mp kept
  have expired := mem_expiredIds stored cutoff
  rw [batchId_of_mem_flowRows belongs]
  simpa [expired] using recent

/-- The foreign key holds: the flow rows of the deleted batches went before them. -/
theorem deleteBatches_follows (ledger : Ledger) (cutoff : Nat) :
    Follows (EngineFailure faults) (fun tables next => tables = next.tables)
      (deleteBatches faults cutoff (ledger.withoutExpiredFlows cutoff))
      (.ok (ledger.prune cutoff)) := by
  unfold deleteBatches
  apply (runs_follows _ _).skip
  intro _ _
  dsimp only
  split
  · rename_i orphaned
    have clear := no_expired_flows ledger cutoff
    exact absurd (orphaned.symm.trans clear) (by decide)
  · refine .ok ?_
    have kept := tables_prune_batches ledger cutoff
    simp only [Ledger.withoutExpiredFlows] at kept ⊢
    rw [kept]

theorem pruneExpired_follows (ledger : Ledger) (maxAgeSeconds now : UInt64) :
    Follows (EngineFailure faults) (fun tables next => tables = next.tables)
      (pruneExpired faults maxAgeSeconds now ledger.tables)
      (ledger.pruneExpired maxAgeSeconds now) := by
  unfold pruneExpired Ledger.pruneExpired
  refine Follows.bind (toSqlError_integer_follows _ _) ?_
  rintro _ _ rfl
  apply (deleteFlows_follows ledger _).skip
  rintro _ rfl
  exact deleteBatches_follows ledger _

theorem selectChecksum_follows (ledger : Ledger) (batchId : String) :
    Follows (EngineFailure faults) (fun found _ => found = (ledger.lookup batchId).map (·.checksum))
      (selectChecksum faults batchId ledger.tables) (.ok () : Except RusqliteError Unit) := by
  unfold selectChecksum
  apply (runs_follows _ _).skip
  intro _ _
  refine .ok ?_
  simp only [Ledger.tables, List.find?_map, Option.map_map, Ledger.lookup]
  rfl

theorem sequenceTaken_iff (stored envelope : BatchEnvelope) :
    sequenceTaken envelope.body.nodeId envelope.body.bootId (envelope.body.seq.toNat : Int)
      (ingestedBatch stored) = true ↔ stored.sequence = envelope.sequence := by
  simp [sequenceTaken, ingestedBatch, BatchEnvelope.sequence, UInt64.toNat_inj, and_assoc]

theorem any_sequenceTaken (ledger : Ledger) (envelope : BatchEnvelope) :
    ledger.tables.ingestedBatches.any (sequenceTaken envelope.body.nodeId envelope.body.bootId
      (envelope.body.seq.toNat : Int)) = true ↔
      envelope.sequence ∈ ledger.stored.map (·.sequence) := by
  simp [Ledger.tables, sequenceTaken_iff]

theorem selectSequence_follows (ledger : Ledger) (envelope : BatchEnvelope) :
    Follows (EngineFailure faults)
      (fun taken _ => taken = true ↔ envelope.sequence ∈ ledger.stored.map (·.sequence))
      (selectSequence faults envelope.body.nodeId envelope.body.bootId envelope.body.seq.toNat
        ledger.tables) (.ok () : Except RusqliteError Unit) := by
  unfold selectSequence
  apply (runs_follows _ _).skip
  intro _ _
  exact .ok (any_sequenceTaken ledger envelope)

def Ledger.withBatch (ledger : Ledger) (envelope : BatchEnvelope) (rows : List FlowRow) :
    ControlTables where
  ingestedBatches := ledger.tables.ingestedBatches ++ [ingestedBatch envelope]
  flowBuckets := ledger.tables.flowBuckets ++ rows

theorem insertIngested_follows {ledger : Ledger} {envelope : BatchEnvelope}
    (free : ledger.Free envelope) :
    Follows (EngineFailure faults) (fun tables _ => tables = ledger.withBatch envelope [])
      (insertIngested faults (ingestedBatch envelope) ledger.tables)
      (.ok () : Except RusqliteError Unit) := by
  unfold insertIngested
  apply (runs_follows _ _).skip
  intro _ _
  split
  · rename_i clash
    obtain ⟨row, member, taken⟩ := List.any_eq_true.mp clash
    obtain ⟨stored, belongs, rfl⟩ := List.mem_map.mp member
    rcases Bool.or_eq_true_iff.mp taken with batchId | sequence
    · exact absurd (List.mem_map.mpr ⟨stored, belongs, by simpa using batchId⟩) free.batchId
    · exact absurd (List.mem_map.mpr ⟨stored, belongs, (sequenceTaken_iff _ _).mp sequence⟩)
        free.sequence
  · exact .ok (by simp [Ledger.withBatch])

theorem insertFlow_follows (ledger : Ledger) (envelope : BatchEnvelope) (rows : List FlowRow)
    (bucket : FlowBucket) :
    Follows (EngineFailure faults)
      (fun tables _ => tables = ledger.withBatch envelope (rows ++ [flowRow envelope bucket]))
      (insertFlow faults (flowRow envelope bucket) (ledger.withBatch envelope rows))
      (.ok () : Except RusqliteError Unit) := by
  unfold insertFlow
  apply (runs_follows _ _).skip
  intro _ _
  split
  · exact .ok (by simp [Ledger.withBatch])
  · rename_i orphan
    exact absurd (by simp [Ledger.withBatch]) orphan

theorem insertFlows_follows (ledger : Ledger) (envelope : BatchEnvelope) (rows : List FlowRow)
    (buckets : List FlowBucket) :
    Follows (IngestFailure faults)
      (fun tables _ => tables =
        ledger.withBatch envelope (rows ++ buckets.map (flowRow envelope)) ∧
          ∀ bucket ∈ buckets, bucket.InRange)
      (insertFlows faults envelope buckets (ledger.withBatch envelope rows))
      (encoding (convertBuckets envelope buckets)) := by
  induction buckets generalizing rows with
  | nil => exact .ok ⟨by simp, by simp⟩
  | cons bucket rest ih =>
      rw [insertFlows, convertBuckets]
      cases converted : flowParams envelope bucket with
      | error error => exact .error _
      | ok row =>
          obtain ⟨rfl, bucketFits⟩ := flowParams_ok converted
          rw [ok_bind]
          apply (database_follows (insertFlow_follows ledger envelope rows bucket)).skip
          rintro _ rfl
          refine (ih (rows ++ [flowRow envelope bucket])).mono ?_
          rintro _ _ ⟨rfl, restFit⟩
          exact ⟨by simp, List.forall_mem_cons.mpr ⟨bucketFits, restFit⟩⟩

theorem tables_add {ledger : Ledger} {envelope : BatchEnvelope} (free : ledger.Free envelope)
    (inRange : envelope.InRange) :
    (ledger.add envelope).tables = ledger.withBatch envelope (flowRows envelope) := by
  simp [Ledger.tables, Ledger.add_stored free inRange, Ledger.withBatch]

theorem insertEnvelope_follows {ledger : Ledger} {envelope : BatchEnvelope}
    (fresh : envelope.batchId ∉ ledger.stored.map (·.batchId)) :
    Follows (IngestFailure faults) (fun result next => result = (next.1, next.2.tables))
      (insertEnvelope faults envelope ledger.tables) (ledger.accept envelope) := by
  unfold insertEnvelope Ledger.accept
  refine Follows.bind (encoding_integer_follows _ _) ?_
  rintro _ _ ⟨rfl, seqFits⟩
  apply (database_follows (selectSequence_follows ledger envelope)).skip
  intro taken known
  split
  · rename_i used
    rw [if_pos (known.mp used)]
    exact .error _
  · rename_i unused
    have free : ledger.Free envelope := ⟨fresh, fun used => unused (known.mpr used)⟩
    rw [if_neg free.sequence, convertColumns, encoding_bind, bind_assoc]
    refine Follows.bind (encoding_integer_follows _ _) ?_
    rintro _ _ ⟨rfl, createdFits⟩
    apply (database_follows (insertIngested_follows free)).skip
    rintro _ rfl
    refine Follows.bind (insertFlows_follows ledger envelope [] envelope.body.buckets) ?_
    rintro _ _ ⟨rfl, bucketsFit⟩
    have inRange : envelope.InRange := ⟨seqFits, createdFits, bucketsFit⟩
    apply (database_follows (runs_follows _ _)).skip
    intro _ _
    exact .ok (by rw [tables_add free inRange]; rfl)

def ControlTables.Represents (tables : ControlTables) (ledger : Ledger) : Prop :=
  tables = ledger.tables

theorem ingestBody_follows (faults : ControlFaults) (maxAgeSeconds : UInt64)
    (envelope : BatchEnvelope) (now : UInt64) (ledger : Ledger) :
    Follows (IngestFailure faults)
      (fun result next => result.1 = next.1 ∧ result.2.Represents next.2)
      (ingestBody faults maxAgeSeconds envelope now ledger.tables)
      (ledger.ingest maxAgeSeconds envelope now) := by
  unfold ingestBody Ledger.ingest
  apply (database_follows (runs_follows _ _)).skip
  intro _ _
  refine Follows.bind (database_follows (pruneExpired_follows ledger maxAgeSeconds now)) ?_
  rintro _ kept rfl
  apply (database_follows (selectChecksum_follows kept envelope.batchId)).skip
  rintro _ rfl
  cases found : kept.lookup envelope.batchId with
  | none =>
      refine (insertEnvelope_follows (Ledger.fresh_of_lookup found)).mono ?_
      rintro _ _ rfl
      exact ⟨rfl, rfl⟩
  | some stored =>
      simp only [Option.map_some]
      split
      · apply (database_follows (runs_follows _ _)).skip
        intro _ _
        exact .ok ⟨rfl, rfl⟩
      · exact .error _

end Simulation

/-! The store as its callers see it. -/

section Store

variable {external : External} {faults : ControlFaults} {limits : ControlLimits}
variable {envelope : BatchEnvelope} {now : UInt64} {ledger : Ledger}

/-- A call on the tables of a ledger leaves the tables of a ledger: those of the ideal call, with
its answer, or after an engine failure those from before. -/
theorem ingestAt_refines (external : External) (faults : ControlFaults) (limits : ControlLimits)
    (envelope : BatchEnvelope) (now : UInt64) (ledger : Ledger) :
    ControlStore.ingestAt external faults limits envelope now ledger.tables =
        ((ledger.ingestAt external limits envelope now).1,
          (ledger.ingestAt external limits envelope now).2.tables) ∨
      ∃ error, IngestFailure faults error ∧
        ControlStore.ingestAt external faults limits envelope now ledger.tables =
          (.error error, ledger.tables) := by
  unfold ControlStore.ingestAt Ledger.ingestAt
  split
  · exact .inl rfl
  · split
    · exact .inl rfl
    · have before : ledger.tables.Represents ledger := rfl
      have follows := ingestBody_follows faults limits.maxAgeSeconds envelope now ledger
      rcases Follows.transact before follows with ⟨answer, tables⟩ | failed
      · exact .inl (Prod.ext answer tables)
      · exact .inr failed

theorem ingestAt_ok {tables : ControlTables} {status : IngestStatus}
    (result : ControlStore.ingestAt external faults limits envelope now ledger.tables =
      (.ok status, tables)) :
    ∃ next : Ledger, tables = next.tables ∧
      ledger.ingestAt external limits envelope now = (.ok status, next) := by
  rcases ingestAt_refines external faults limits envelope now ledger with
    ideal | ⟨error, _, failed⟩
  · have same := ideal.symm.trans result
    exact ⟨_, (congrArg Prod.snd same).symm, eq_of_fst (congrArg Prod.fst same)⟩
  · exact absurd (congrArg Prod.fst (failed.symm.trans result)) (by simp)

theorem pruneExpired_tables (ledger : Ledger) {maxAgeSeconds : UInt64}
    (bound : controlCutoff now maxAgeSeconds < 2 ^ 63) :
    pruneExpired noFaults maxAgeSeconds now ledger.tables =
      .ok (ledger.prune (controlCutoff now maxAgeSeconds)).tables := by
  obtain ⟨tables, pruned, rfl⟩ := Follows.of_ideal_ok not_engineFailure_noFaults
    (pruneExpired_follows ledger maxAgeSeconds now) (ledger.pruneExpired_of_lt bound)
  exact pruned

theorem ingestAt_noFaults (external : External) (limits : ControlLimits) (envelope : BatchEnvelope)
    (now : UInt64) (ledger : Ledger) :
    ControlStore.ingestAt external noFaults limits envelope now ledger.tables =
      ((ledger.ingestAt external limits envelope now).1,
        (ledger.ingestAt external limits envelope now).2.tables) := by
  rcases ingestAt_refines external noFaults limits envelope now ledger with
    ideal | ⟨error, ⟨cause, broken, _⟩, _⟩
  · exact ideal
  · exact (not_engineFailure_noFaults cause broken).elim

end Store

end FlowObservability
