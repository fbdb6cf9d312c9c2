import FlowObservability.SpoolHistory

/-!
No silent loss: over any run of calls the spool accounts for every sequence number, and
its keys never clash.
-/

namespace FlowObservability

open Runs Table Transaction

section Keys

variable {external : External} {enqueued : List BatchEnvelope} {acknowledged : List BatchRow}
  {tables : SpoolTables} {faults : SpoolFaults}

theorem insertGap_avoids (keeps : FaultsKeepKeys faults) {seq createdAt : UInt64}
    {minBucket maxBucket : Option UInt64} {lostBytes : Nat} {reason : String}
    (fresh : ∀ gap ∈ tables.gaps, gap.seq ≠ seq.toNat) :
    Avoids constraintError
      (insertGap faults tables seq minBucket maxBucket lostBytes reason createdAt) := by
  apply (toSqlError_avoids _).bind
  intro seqSql seqStored
  apply (toSqlError_avoids _).bind
  intro _ _
  apply (toSqlError_avoids _).bind
  intro _ _
  apply (toSqlError_avoids _).bind
  intro _ _
  apply (toSqlError_avoids _).bind
  intro _ _
  apply (runs_avoids keeps _ _).bind
  intro _ _
  rw [toSqlError_eq_ok] at seqStored
  have stored := (integer_ok seqStored).1
  subst stored
  simp only [gap_free fresh, Bool.false_eq_true, ↓reduceIte]
  exact avoids_pure _

theorem insertBatch_avoids (keeps : FaultsKeepKeys faults) {row : BatchRow}
    (fresh : ∀ stored ∈ tables.batches, stored.seq ≠ row.seq ∧ stored.batchId ≠ row.batchId) :
    Avoids constraintError (insertBatch faults row tables) := by
  apply (runs_avoids keeps _ _).bind
  intro _ _
  simp only [batch_free fresh, Bool.false_eq_true, ↓reduceIte]
  exact avoids_pure _

theorem Accounts.gap_seq_ne (accounts : Accounts external enqueued acknowledged tables)
    {row : BatchRow} (member : row ∈ tables.batches) : ∀ gap ∈ tables.gaps, gap.seq ≠ row.seq := by
  intro gap gapMem same
  have parts := List.nodup_append.mp (List.nodup_append.mp accounts.seq_nodup).1
  exact parts.2.2 row.seq (List.mem_map_of_mem member) gap.seq (List.mem_map_of_mem gapMem)
    same.symm

theorem selectCandidate_avoids (keeps : FaultsKeepKeys faults)
    (cutoff total maxPayloadBytes : Int) :
    Avoids constraintError (selectCandidate faults cutoff total maxPayloadBytes tables) := by
  apply (runs_avoids keeps _ _).bind
  intro _ _
  split
  · exact avoids_pure _
  · rename_i row found
    refine Avoids.bind ?_ fun _ _ => avoids_pure _
    apply (unsigned_avoids _ _).bind
    intro _ _
    apply (optionalUnsigned_avoids _ _).bind
    intro _ _
    apply (optionalUnsigned_avoids _ _).bind
    intro _ _
    apply (unsigned_avoids _ _).bind
    intro _ _
    apply (unsigned_avoids _ _).bind
    intro _ _
    exact avoids_pure _

theorem evictOne_avoids (keeps : FaultsKeepKeys faults)
    (accounts : Accounts external enqueued acknowledged tables) (cutoff : Nat)
    (cutoffSql maxPayloadBytesSql : Int) (now : UInt64) :
    Avoids (AnyhowError.sqlite constraintError)
      (evictOne faults cutoff cutoffSql maxPayloadBytesSql now tables) := by
  have totalAvoids : Avoids constraintError (selectTotalBytes faults tables) := by
    apply (runs_avoids keeps _ _).bind
    intro _ _
    apply (sumFrom_avoids _ _).bind
    intro _ _
    exact unsigned_avoids _ _
  apply (sqlite_avoids totalAvoids).bind
  intro total _
  apply (anyhow_avoids _).bind
  intro totalSql _
  apply (sqlite_avoids (selectCandidate_avoids keeps _ _ _)).bind
  intro candidate selected
  cases candidate with
  | none => exact avoids_pure _
  | some read =>
      rw [sqlite_eq_ok] at selected
      have found := selectCandidate_ok selected
      cases first : candidateRow cutoffSql totalSql maxPayloadBytesSql tables.batches with
      | none => simp [first, ReadFrom] at found
      | some row =>
          simp only [first, ReadFrom] at found
          have member : row ∈ tables.batches := by
            have head := List.mem_of_head? first
            rw [mem_orderBy, List.mem_filter] at head
            exact head.1
          apply (anyhow_avoids _).bind
          intro seq seqStored
          have deletion : Avoids constraintError (deleteBatch faults seq tables) :=
            (runs_avoids keeps _ _).bind fun _ _ => avoids_pure _
          apply (sqlite_avoids deletion).bind
          intro deleted deletedEq
          rw [sqlite_eq_ok] at deletedEq
          obtain ⟨_, _, deletedEq⟩ := bind_ok deletedEq
          refine Avoids.bind (sqlite_avoids ?_) fun _ _ => avoids_pure _
          apply insertGap_avoids keeps
          rw [← pure_ok deletedEq, ← (readCandidate_ok found).1]
          exact accounts.gap_seq_ne member

theorem evictFrom_avoids (keeps : FaultsKeepKeys faults) (cutoff : Nat) (maxPayloadBytes : Int)
    (now : UInt64) (rounds evicted : Nat)
    (accounts : Accounts external enqueued acknowledged tables) :
    Avoids (AnyhowError.sqlite constraintError)
      (evictFrom faults cutoff cutoff maxPayloadBytes now rounds evicted tables) := by
  induction rounds generalizing evicted tables with
  | zero => exact avoids_ok _
  | succ rounds ih =>
      apply (evictOne_avoids keeps accounts _ _ _ _).bind
      intro outcome round
      have step := evictOne_ok round
      cases outcome with
      | none => exact avoids_pure _
      | some shrunk =>
          obtain ⟨row, due, shrunkEq⟩ := step
          rw [shrunkEq]
          exact ih _ (accounts.evict (due_mem due) _ _)

section NewBatch

variable {envelope : BatchEnvelope} (accounts : Accounts external enqueued acknowledged tables)
  (fresh : envelope.body.seq.toNat = enqueued.length)
include accounts fresh

theorem Accounts.gap_ne_fresh : ∀ gap ∈ tables.gaps, gap.seq ≠ envelope.body.seq.toNat := by
  intro gap member
  have below : gap.seq < enqueued.length := accounts.number_lt
    (List.mem_append_left _ (List.mem_append_right _ (List.mem_map_of_mem member)))
  omega

theorem Accounts.batch_ne_fresh (isSealed : envelope.Sealed external) :
    ∀ stored ∈ tables.batches, stored.seq ≠ (batchRow envelope).seq ∧
      stored.batchId ≠ (batchRow envelope).batchId := by
  intro stored member
  have below : stored.seq < enqueued.length := accounts.number_lt
    (List.mem_append_left _ (List.mem_append_left _ (List.mem_map_of_mem member)))
  have seqNe : stored.seq ≠ (batchRow envelope).seq := by
    simp only [batchRow]
    omega
  refine ⟨seqNe, ?_⟩
  intro same
  obtain ⟨source, belongs, sourceEq⟩ := accounts.stored stored member
  rw [sourceEq] at same seqNe
  have fields := (accounts.isSealed source belongs).batchId_fields isSealed same
  exact seqNe (by simp [batchRow, fields.1])

theorem Accounts.storeEnvelope_avoids (isSealed : envelope.Sealed external)
    (keeps : FaultsKeepKeys faults) (limits : SpoolLimits) :
    Avoids (AnyhowError.sqlite constraintError) (storeEnvelope faults limits envelope
      { tables with nextSeq := some (envelope.body.seq.toNat + 1 : Int) }) := by
  simp only [storeEnvelope]
  split
  · refine Avoids.bind (sqlite_avoids (insertGap_avoids keeps ?_)) ?_
    · exact accounts.gap_ne_fresh fresh
    · intro _ _
      apply (sqlite_avoids (runs_avoids keeps _ _)).bind
      intro _ _
      exact avoids_pure _
  · apply (anyhow_avoids _).bind
    intro row params
    rw [anyhow_eq_ok] at params
    have rowEq := batchParams_ok params
    subst rowEq
    refine Avoids.bind (sqlite_avoids (insertBatch_avoids keeps ?_)) ?_
    · exact accounts.batch_ne_fresh fresh isSealed
    · intro inserted insertion
      rw [sqlite_eq_ok] at insertion
      rw [insertBatch_ok insertion]
      refine Avoids.bind ?_ ?_
      · apply (anyhow_avoids _).bind
        intro cutoffSql cutoffStored
        apply (anyhow_avoids _).bind
        intro _ _
        rw [anyhow_eq_ok] at cutoffStored
        rw [(integer_ok cutoffStored).1]
        exact evictFrom_avoids keeps _ _ _ _ _ (accounts.insert isSealed fresh)
      · intro _ _
        apply (sqlite_avoids (runs_avoids keeps _ _)).bind
        intro _ _
        exact avoids_pure _

end NewBatch

theorem Accounts.enqueue_avoids (accounts : Accounts external enqueued acknowledged tables)
    (keeps : FaultsKeepKeys faults) (limits : SpoolLimits) (args : EnqueueArgs) :
    Avoids (AnyhowError.sqlite constraintError)
      (Spool.enqueue external faults limits args tables).1 := by
  apply transact_avoids
  apply (sqlite_avoids (runs_avoids keeps _ _)).bind
  intro _ _
  have selecting : Avoids constraintError (selectNextSeq faults tables) := by
    apply (runs_avoids keeps _ _).bind
    intro _ _
    split
    · simp [Avoids, constraintError]
    · exact unsigned_avoids _ _
  apply (sqlite_avoids selecting).bind
  intro seq selected
  have updating : Avoids constraintError (updateNextSeq faults tables) :=
    (runs_avoids keeps _ _).bind fun _ _ => avoids_pure _
  apply (sqlite_avoids updating).bind
  intro updated update
  rw [sqlite_eq_ok] at selected update
  have counter := (selectNextSeq_ok selected).1
  have total := accounts.counter
  simp only [SpoolTables.counter, counter, Option.getD_some] at total
  have fresh : (args.envelope external seq).body.seq.toNat = enqueued.length :=
    Int.ofNat_inj.mp total
  rw [updateNextSeq_ok update, counter]
  exact accounts.storeEnvelope_avoids fresh (BatchEnvelope.new_sealed ..) keeps limits

end Keys

/-- Over any run of calls from an empty database, the sequence numbers below the counter are
split among pending batches, gaps and acknowledged batches; each gap describes the batch it
replaces; failing calls change nothing; and no key constraint fires. -/
theorem spool_accounts_for_every_batch (external : External) (calls : List SpoolCall) :
    let history := SpoolHistory.run external calls
    history.tables.counter = history.enqueued.length ∧
    (history.tables.batches.map (·.seq) ++ history.tables.gaps.map (·.seq) ++
      history.acknowledged.map (·.seq)).Perm (sequenceNumbers history.enqueued.length) ∧
    history.enqueued.map (·.body.seq.toNat) = List.range history.enqueued.length ∧
    (∀ gap ∈ history.tables.gaps, ∃ envelope ∈ history.enqueued,
      gap.seq = envelope.body.seq.toNat ∧
      gap.minBucket = ((envelope.body.buckets.map (·.bucketStart)).min?.map fun start =>
        (start.toNat : Int)) ∧
      gap.maxBucket = ((envelope.body.buckets.map (·.bucketStart)).max?.map fun start =>
        (start.toNat : Int)) ∧
      gap.lostBytes = (toVec envelope).utf8ByteSize) ∧
    history.evictedBatches = history.tables.gaps.length ∧
    (∀ faults limits args error next,
      Spool.enqueue external faults limits args history.tables = (.error error, next) →
        next = history.tables) ∧
    (∀ faults batchId checksum error next,
      Spool.acknowledge faults batchId checksum history.tables = (.error error, next) →
        next = history.tables) ∧
    (∀ faults limits args, FaultsKeepKeys faults →
      (Spool.enqueue external faults limits args history.tables).1 ≠
        .error (.sqlite (.sqliteFailure .constraintViolation))) := by
  intro history
  have accounted : history.Accounted external := SpoolHistory.run_accounted external calls
  refine ⟨accounted.accounts.counter, accounted.accounts.partition, accounted.accounts.numbered,
    ?_, accounted.counted, ?_, ?_, ?_⟩
  · intro gap member
    obtain ⟨envelope, belongs, reason, now, same⟩ := accounted.accounts.lost gap member
    exact ⟨envelope, belongs, by rw [same]; exact ⟨rfl, rfl, rfl, rfl⟩⟩
  · intro faults limits args error next result
    exact transact_error result
  · intro faults batchId checksum error next result
    rcases accounted.accounts.acknowledge_result result with ⟨_, _, same⟩ | ⟨passed, _, _⟩
    · exact same
    · simp at passed
  · intro faults limits args keeps
    exact accounted.accounts.enqueue_avoids keeps limits args

end FlowObservability
