import Mathlib.Algebra.Order.BigOperators.Group.List
import Mathlib.Algebra.Order.Ring.Int
import FlowObservability.Envelope
import FlowObservability.Spool

/-!
What each statement and each call of the spool does when it succeeds: the rows it
adds, the rows it removes, and the sequence of evictions behind `enforce_limits`.
-/

namespace FlowObservability

open Table Transaction

def batchRow (envelope : BatchEnvelope) : BatchRow where
  seq := envelope.body.seq.toNat
  batchId := envelope.batchId
  checksum := envelope.checksum
  createdAt := envelope.body.createdAt.toNat
  minBucket := (bucketRange envelope.body.buckets).1.map fun value => (value.toNat : Int)
  maxBucket := (bucketRange envelope.body.buckets).2.map fun value => (value.toNat : Int)
  payloadBytes := (toVec envelope).utf8ByteSize
  payload := toVec envelope

def BatchRow.gap (row : BatchRow) (reason : String) (now : UInt64) : GapRow where
  seq := row.seq
  minBucket := row.minBucket
  maxBucket := row.maxBucket
  lostBytes := row.payloadBytes
  reason := reason
  createdAt := now.toNat

def SpoolTables.evict (tables : SpoolTables) (row : BatchRow) (reason : String) (now : UInt64) :
    SpoolTables :=
  { tables with
    batches := tables.batches.filter fun stored => stored.seq != row.seq
    gaps := tables.gaps ++ [row.gap reason now] }

def SpoolTables.totalBytes (tables : SpoolTables) : Int :=
  (tables.batches.map (·.payloadBytes)).sum

theorem SpoolTables.totalBytes_nonneg {tables : SpoolTables}
    (nonneg : ∀ row ∈ tables.batches, 0 ≤ row.payloadBytes) : 0 ≤ tables.totalBytes := by
  apply List.sum_nonneg
  intro bytes member
  obtain ⟨row, stored, rfl⟩ := List.mem_map.mp member
  exact nonneg row stored

theorem SpoolTables.totalBytes_filter_le {tables : SpoolTables}
    (nonneg : ∀ row ∈ tables.batches, 0 ≤ row.payloadBytes) (kept : BatchRow → Bool) :
    { tables with batches := tables.batches.filter kept }.totalBytes ≤ tables.totalBytes := by
  apply List.Sublist.sum_le_sum (List.filter_sublist.map _)
  intro bytes member
  obtain ⟨row, stored, rfl⟩ := List.mem_map.mp member
  exact nonneg row stored

theorem integerOption_ok {value : Option UInt64} {field : String} {column : Option Int}
    (result : (value.mapM fun number => integer number.toNat field) = .ok column) :
    column = value.map fun number => (number.toNat : Int) := by
  cases value with
  | none => exact (pure_ok result).symm
  | some number =>
      obtain ⟨converted, stored, rest⟩ := bind_ok result
      rw [← pure_ok rest, (integer_ok stored).1]
      rfl

theorem batchParams_ok {envelope : BatchEnvelope} {row : BatchRow}
    (result : batchParams envelope = .ok row) : row = batchRow envelope := by
  obtain ⟨seq, seqStored, result⟩ := bind_ok result
  obtain ⟨createdAt, createdStored, result⟩ := bind_ok result
  obtain ⟨minBucket, minStored, result⟩ := bind_ok result
  obtain ⟨maxBucket, maxStored, result⟩ := bind_ok result
  obtain ⟨payloadBytes, payloadStored, result⟩ := bind_ok result
  rw [← pure_ok result, (integer_ok seqStored).1, (integer_ok createdStored).1,
    integerOption_ok minStored, integerOption_ok maxStored, (integer_ok payloadStored).1]
  rfl

theorem selectNextSeq_ok {faults : SpoolFaults} {tables : SpoolTables} {seq : UInt64}
    (result : selectNextSeq faults tables = .ok seq) :
    tables.nextSeq = some (seq.toNat : Int) ∧ seq.toNat < 2 ^ 63 := by
  obtain ⟨_, _, result⟩ := bind_ok result
  split at result
  · simp at result
  · rename_i value stored
    have read := unsigned_ok result
    exact ⟨by rw [stored, read.1], read.2⟩

theorem selectNextSeq_of_counter {tables : SpoolTables} {count : Nat} (bound : count < 2 ^ 63)
    (counter : tables.nextSeq = some (count : Int)) :
    selectNextSeq noFaults tables = .ok (UInt64.ofNat count) := by
  rw [selectNextSeq, runs_noFaults, ok_bind, counter]
  exact unsigned_of_nat bound

/-! The two keys that an INSERT can meet. -/

theorem batch_free {tables : SpoolTables} {row : BatchRow}
    (fresh : ∀ stored ∈ tables.batches, stored.seq ≠ row.seq ∧ stored.batchId ≠ row.batchId) :
    (tables.batches.any fun stored => stored.seq == row.seq || stored.batchId == row.batchId) =
      false := by
  rw [List.any_eq_false]
  intro stored member
  simpa using fresh stored member

theorem gap_free {tables : SpoolTables} {seq : Int} (fresh : ∀ gap ∈ tables.gaps, gap.seq ≠ seq) :
    (tables.gaps.any fun stored => stored.seq == seq) = false := by
  rw [List.any_eq_false]
  intro gap member
  simpa using fresh gap member

theorem updateNextSeq_ok {faults : SpoolFaults} {tables next : SpoolTables}
    (result : updateNextSeq faults tables = .ok next) :
    next = { tables with nextSeq := tables.nextSeq.map (· + 1) } := by
  obtain ⟨_, _, result⟩ := bind_ok result
  exact (pure_ok result).symm

theorem insertBatch_ok {faults : SpoolFaults} {row : BatchRow} {tables next : SpoolTables}
    (result : insertBatch faults row tables = .ok next) :
    next = { tables with batches := tables.batches ++ [row] } := by
  obtain ⟨_, _, result⟩ := bind_ok result
  split at result
  · simp at result
  · exact (pure_ok result).symm

theorem insertGap_ok {faults : SpoolFaults} {tables next : SpoolTables} {seq createdAt : UInt64}
    {minBucket maxBucket : Option UInt64} {lostBytes : Nat} {reason : String}
    (result : insertGap faults tables seq minBucket maxBucket lostBytes reason createdAt =
      .ok next) :
    next = { tables with gaps := tables.gaps ++ [{
      seq := seq.toNat
      minBucket := minBucket.map fun value => (value.toNat : Int)
      maxBucket := maxBucket.map fun value => (value.toNat : Int)
      lostBytes
      reason
      createdAt := createdAt.toNat }] } := by
  obtain ⟨seqSql, seqRead, result⟩ := bind_ok result
  obtain ⟨minSql, minRead, result⟩ := bind_ok result
  obtain ⟨maxSql, maxRead, result⟩ := bind_ok result
  obtain ⟨lostSql, lostRead, result⟩ := bind_ok result
  obtain ⟨createdSql, createdRead, result⟩ := bind_ok result
  obtain ⟨_, _, result⟩ := bind_ok result
  rw [toSqlError_eq_ok] at seqRead minRead maxRead lostRead createdRead
  split at result
  · simp at result
  · rw [← pure_ok result, (integer_ok seqRead).1, integerOption_ok minRead,
      integerOption_ok maxRead, (integer_ok lostRead).1, (integer_ok createdRead).1]

theorem readCandidate_ok {row : BatchRow} {candidate : Candidate}
    (result : readCandidate row = .ok candidate) :
    row.seq = candidate.seq.toNat ∧
      row.minBucket = candidate.minBucket.map (fun value => (value.toNat : Int)) ∧
      row.maxBucket = candidate.maxBucket.map (fun value => (value.toNat : Int)) ∧
      row.payloadBytes = candidate.payloadBytes.toNat ∧
      row.createdAt = candidate.createdAt.toNat := by
  obtain ⟨seq, seqRead, result⟩ := bind_ok result
  obtain ⟨minBucket, minRead, result⟩ := bind_ok result
  obtain ⟨maxBucket, maxRead, result⟩ := bind_ok result
  obtain ⟨payloadBytes, payloadRead, result⟩ := bind_ok result
  obtain ⟨createdAt, createdRead, result⟩ := bind_ok result
  rw [← pure_ok result]
  exact ⟨(unsigned_ok seqRead).1, optionalUnsigned_ok minRead, optionalUnsigned_ok maxRead,
    (unsigned_ok payloadRead).1, (unsigned_ok createdRead).1⟩

def BatchRow.reason (row : BatchRow) (cutoff : Nat) : String :=
  evictionReason row.createdAt.toNat cutoff

theorem selectTotalBytes_ok {faults : SpoolFaults} {tables : SpoolTables} {total : UInt64}
    (result : selectTotalBytes faults tables = .ok total) :
    tables.totalBytes = total.toNat := by
  obtain ⟨_, _, result⟩ := bind_ok result
  obtain ⟨sum, summed, result⟩ := bind_ok result
  rw [SpoolTables.totalBytes, ← sumOf_ok summed]
  exact (unsigned_ok result).1

def ReadFrom : Option BatchRow → Option Candidate → Prop
  | none, none => True
  | some row, some candidate => readCandidate row = .ok candidate
  | _, _ => False

theorem selectCandidate_ok {faults : SpoolFaults} {cutoff total maxPayloadBytes : Int}
    {tables : SpoolTables} {candidate : Option Candidate}
    (result : selectCandidate faults cutoff total maxPayloadBytes tables = .ok candidate) :
    ReadFrom (candidateRow cutoff total maxPayloadBytes tables.batches) candidate := by
  obtain ⟨_, _, result⟩ := bind_ok result
  cases found : candidateRow cutoff total maxPayloadBytes tables.batches with
  | none =>
      simp only [found] at result
      rw [← pure_ok result]
      trivial
  | some row =>
      simp only [found] at result
      obtain ⟨read, readRow, result⟩ := bind_ok result
      rw [← pure_ok result]
      exact readRow

def SpoolTables.due (tables : SpoolTables) (cutoff : Nat) (maxPayloadBytes : Int) :
    Option BatchRow :=
  candidateRow cutoff tables.totalBytes maxPayloadBytes tables.batches

def RoundResult (cutoff : Nat) (maxPayloadBytes : Int) (now : UInt64) (tables : SpoolTables) :
    Option SpoolTables → Prop
  | none => tables.due cutoff maxPayloadBytes = none
  | some next => ∃ row, tables.due cutoff maxPayloadBytes = some row ∧
      next = tables.evict row (row.reason cutoff) now

theorem evictOne_ok {faults : SpoolFaults} {cutoff : Nat} {maxPayloadBytes : Int}
    {now : UInt64} {tables : SpoolTables} {outcome : Option SpoolTables}
    (result : evictOne faults cutoff cutoff maxPayloadBytes now tables = .ok outcome) :
    RoundResult cutoff maxPayloadBytes now tables outcome := by
  obtain ⟨total, totalRead, result⟩ := bind_ok result
  obtain ⟨totalSql, totalStored, result⟩ := bind_ok result
  obtain ⟨candidate, selected, result⟩ := bind_ok result
  rw [sqlite_eq_ok] at totalRead selected
  rw [anyhow_eq_ok] at totalStored
  rw [(integer_ok totalStored).1, ← selectTotalBytes_ok totalRead] at selected
  have found := selectCandidate_ok selected
  cases first : candidateRow cutoff tables.totalBytes maxPayloadBytes tables.batches with
  | none =>
    cases candidate with
    | some read => simp [first, ReadFrom] at found
    | none =>
      rw [← pure_ok result]
      exact first
  | some row =>
    cases candidate with
    | none => simp [first, ReadFrom] at found
    | some read =>
      simp only [first, ReadFrom] at found
      obtain ⟨seqSql, seqStored, result⟩ := bind_ok result
      obtain ⟨deleted, deletion, result⟩ := bind_ok result
      obtain ⟨inserted, insertion, result⟩ := bind_ok result
      rw [anyhow_eq_ok] at seqStored
      rw [sqlite_eq_ok] at deletion insertion
      obtain ⟨_, _, deletion⟩ := bind_ok deletion
      have columns := readCandidate_ok found
      rw [← pure_ok result]
      refine ⟨row, first, ?_⟩
      rw [insertGap_ok insertion, ← pure_ok deletion, (integer_ok seqStored).1]
      simp [SpoolTables.evict, BatchRow.gap, BatchRow.reason, columns]

inductive Evictions (cutoff : Nat) (maxPayloadBytes : Int) (now : UInt64) :
    Nat → SpoolTables → SpoolTables → Prop
  | done (tables : SpoolTables) : Evictions cutoff maxPayloadBytes now 0 tables tables
  | round {count : Nat} {tables next : SpoolTables} {row : BatchRow}
      (due : tables.due cutoff maxPayloadBytes = some row)
      (rest : Evictions cutoff maxPayloadBytes now count
        (tables.evict row (row.reason cutoff) now) next) :
      Evictions cutoff maxPayloadBytes now (count + 1) tables next

theorem due_mem {tables : SpoolTables} {cutoff : Nat} {maxPayloadBytes : Int} {row : BatchRow}
    (due : tables.due cutoff maxPayloadBytes = some row) : row ∈ tables.batches := by
  have member := List.mem_of_head? due
  rw [mem_orderBy, List.mem_filter] at member
  exact member.1

theorem due_none {tables : SpoolTables} {cutoff : Nat} {maxPayloadBytes : Int}
    (settled : tables.due cutoff maxPayloadBytes = none) :
    ∀ row ∈ tables.batches, (cutoff : Int) ≤ row.createdAt ∧
      tables.totalBytes ≤ maxPayloadBytes := by
  simp only [SpoolTables.due, candidateRow, List.head?_eq_none_iff, orderBy_eq_nil,
    List.filter_eq_nil_iff, Bool.or_eq_true, decide_eq_true_eq, not_or, not_lt] at settled
  exact settled

theorem evict_length_lt {tables : SpoolTables} {row : BatchRow} (member : row ∈ tables.batches)
    (reason : String) (now : UInt64) :
    (tables.evict row reason now).batches.length < tables.batches.length := by
  apply List.length_filter_lt_length_iff_exists.mpr
  exact ⟨row, member, by simp⟩

/-- The loop ends because no row is due any more, never for want of rounds. -/
theorem evictFrom_ok {faults : SpoolFaults} {cutoff : Nat} {maxPayloadBytes : Int} {now : UInt64}
    {rounds start evicted : Nat} {tables next : SpoolTables}
    (enough : tables.batches.length < rounds)
    (result : evictFrom faults cutoff cutoff maxPayloadBytes now rounds start tables =
      .ok (evicted, next)) :
    ∃ count, evicted = start + count ∧
      Evictions cutoff maxPayloadBytes now count tables next ∧
      next.due cutoff maxPayloadBytes = none := by
  induction rounds generalizing start tables with
  | zero => omega
  | succ rounds ih =>
      simp only [evictFrom] at result
      obtain ⟨outcome, round, result⟩ := bind_ok result
      have step := evictOne_ok round
      cases outcome with
      | none =>
          have same := pure_ok result
          simp only [Prod.mk.injEq] at same
          obtain ⟨sameCount, sameTables⟩ := same
          subst sameTables
          exact ⟨0, by omega, .done _, step⟩
      | some shrunk =>
          obtain ⟨row, due, shrunkEq⟩ := step
          subst shrunkEq
          have shorter := evict_length_lt (due_mem due) (row.reason cutoff) now
          obtain ⟨count, total, rest, settled⟩ := ih (by omega) result
          exact ⟨count + 1, by omega, .round due rest, settled⟩

theorem enforceLimits_ok {faults : SpoolFaults} {limits : SpoolLimits} {now : UInt64}
    {tables next : SpoolTables} {evicted : Nat}
    (result : enforceLimits faults limits now tables = .ok (evicted, next)) :
    Evictions (ageCutoff now limits.maxAgeSeconds) limits.maxPayloadBytes.toNat now evicted
        tables next ∧
      next.due (ageCutoff now limits.maxAgeSeconds) limits.maxPayloadBytes.toNat = none := by
  obtain ⟨cutoffSql, cutoffStored, result⟩ := bind_ok result
  obtain ⟨maxSql, maxStored, result⟩ := bind_ok result
  rw [anyhow_eq_ok] at cutoffStored maxStored
  rw [(integer_ok cutoffStored).1, (integer_ok maxStored).1] at result
  obtain ⟨count, total, evictions, settled⟩ := evictFrom_ok (by omega) result
  have same : evicted = count := by omega
  subst same
  exact ⟨evictions, settled⟩

/-- What a successful `enqueue` makes of the tables: a batch over the byte limit goes
straight to the gaps, any other is stored and the limits are enforced. -/
inductive Stored (limits : SpoolLimits) (envelope : BatchEnvelope) (tables : SpoolTables) :
    Nat → SpoolTables → Prop
  | oversized (tooLarge : limits.maxPayloadBytes.toNat < (toVec envelope).utf8ByteSize) :
      Stored limits envelope tables 1 { tables with
        gaps := tables.gaps ++
          [(batchRow envelope).gap "batch_exceeds_spool_limit" envelope.body.createdAt] }
  | kept {evicted : Nat} {next : SpoolTables}
      (fits : (toVec envelope).utf8ByteSize ≤ limits.maxPayloadBytes.toNat)
      (params : batchParams envelope = .ok (batchRow envelope))
      (evictions : Evictions (ageCutoff envelope.body.createdAt limits.maxAgeSeconds)
        limits.maxPayloadBytes.toNat envelope.body.createdAt evicted
        { tables with batches := tables.batches ++ [batchRow envelope] } next)
      (settled : next.due (ageCutoff envelope.body.createdAt limits.maxAgeSeconds)
        limits.maxPayloadBytes.toNat = none) :
      Stored limits envelope tables evicted next

theorem Evictions.nextSeq {cutoff count : Nat} {maxPayloadBytes : Int} {now : UInt64}
    {tables next : SpoolTables}
    (evictions : Evictions cutoff maxPayloadBytes now count tables next) :
    next.nextSeq = tables.nextSeq := by
  induction evictions with
  | done tables => rfl
  | round due rest ih => exact ih

theorem Stored.nextSeq {limits : SpoolLimits} {envelope : BatchEnvelope} {evicted : Nat}
    {tables next : SpoolTables} (stored : Stored limits envelope tables evicted next) :
    next.nextSeq = tables.nextSeq := by
  cases stored with
  | oversized tooLarge => rfl
  | kept fits params evictions settled => exact evictions.nextSeq

theorem Evictions.batches_subset {cutoff count : Nat} {maxPayloadBytes : Int} {now : UInt64}
    {tables next : SpoolTables}
    (evictions : Evictions cutoff maxPayloadBytes now count tables next) :
    next.batches ⊆ tables.batches := by
  induction evictions with
  | done tables => exact List.Subset.refl _
  | round due rest ih => exact List.Subset.trans ih (List.filter_subset_self _)

theorem Stored.batches_subset {limits : SpoolLimits} {envelope : BatchEnvelope} {evicted : Nat}
    {tables next : SpoolTables} (stored : Stored limits envelope tables evicted next) :
    next.batches ⊆ tables.batches ++ [batchRow envelope] := by
  cases stored with
  | oversized tooLarge => exact List.subset_append_left _ _
  | kept fits params evictions settled => exact evictions.batches_subset

theorem storeEnvelope_ok {faults : SpoolFaults} {limits : SpoolLimits} {envelope : BatchEnvelope}
    {tables next : SpoolTables} {value : EnqueueResult}
    (result : storeEnvelope faults limits envelope tables = .ok (value, next)) :
    value.batchId = envelope.batchId ∧ Stored limits envelope tables value.evictedBatches next := by
  simp only [storeEnvelope] at result
  split at result
  · rename_i tooLarge
    obtain ⟨inserted, insertion, result⟩ := bind_ok result
    obtain ⟨_, _, result⟩ := bind_ok result
    have same := pure_ok result
    simp only [Prod.mk.injEq] at same
    rw [sqlite_eq_ok] at insertion
    rw [← same.1, ← same.2, insertGap_ok insertion]
    exact ⟨rfl, .oversized tooLarge⟩
  · rename_i fits
    obtain ⟨row, params, result⟩ := bind_ok result
    obtain ⟨inserted, insertion, result⟩ := bind_ok result
    obtain ⟨⟨evicted, enforced⟩, enforcement, result⟩ := bind_ok result
    obtain ⟨_, _, result⟩ := bind_ok result
    have same := pure_ok result
    simp only [Prod.mk.injEq] at same
    rw [sqlite_eq_ok] at insertion
    rw [anyhow_eq_ok] at params
    have rowEq := batchParams_ok params
    subst rowEq
    rw [insertBatch_ok insertion] at enforcement
    obtain ⟨evictions, settled⟩ := enforceLimits_ok enforcement
    rw [← same.1, ← same.2]
    exact ⟨rfl, .kept (by omega) params evictions settled⟩

theorem Spool.enqueue_ok {external : External} {faults : SpoolFaults} {limits : SpoolLimits}
    {args : EnqueueArgs} {tables next : SpoolTables} {value : EnqueueResult}
    (result : Spool.enqueue external faults limits args tables = (.ok value, next)) :
    ∃ seq : UInt64, tables.nextSeq = some (seq.toNat : Int) ∧ seq.toNat < 2 ^ 63 ∧
      value.batchId = (args.envelope external seq).batchId ∧
      Stored limits (args.envelope external seq)
        { tables with nextSeq := some (seq.toNat + 1 : Int) } value.evictedBatches next := by
  have body := transact_ok result
  obtain ⟨_, _, body⟩ := bind_ok body
  obtain ⟨seq, selected, body⟩ := bind_ok body
  obtain ⟨updated, update, body⟩ := bind_ok body
  rw [sqlite_eq_ok] at selected update
  have counter := selectNextSeq_ok selected
  have stored := storeEnvelope_ok body
  rw [updateNextSeq_ok update, counter.1] at stored
  exact ⟨seq, counter.1, counter.2, stored.1, stored.2⟩

end FlowObservability
