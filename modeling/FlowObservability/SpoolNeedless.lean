import FlowObservability.SpoolEviction
import FlowObservability.SpoolHistory

/-!
Which unexpired batches the byte limit takes. The loop evicts by number while the total is
over the limit, and the total counts expired batches whose turn has not come.
-/

namespace FlowObservability

open Budget Runs Table Transaction

section Reachable

variable {external : External} {enqueued : List BatchEnvelope} {acknowledged : List BatchRow}
  {tables next : SpoolTables} {limits : SpoolLimits} {envelope : BatchEnvelope} {evicted : Nat}
  {history : SpoolHistory}

theorem optionalInteger_bound {value : Option UInt64} {field : String} {column : Option Int}
    (result : (value.mapM fun number => integer number.toNat field) = .ok column) :
    ∀ number ∈ column, 0 ≤ number ∧ number < 2 ^ 63 := by
  cases value with
  | none => simp [← pure_ok result]
  | some start =>
      obtain ⟨converted, stored, rest⟩ := bind_ok result
      obtain ⟨rfl, bound⟩ := integer_ok stored
      rw [← pure_ok rest]
      intro number same
      rw [← Option.some.inj same]
      omega

theorem batchParams_unsigned {row : BatchRow} (result : batchParams envelope = .ok row) :
    row.Unsigned := by
  obtain ⟨seq, seqStored, result⟩ := bind_ok result
  obtain ⟨createdAt, createdStored, result⟩ := bind_ok result
  obtain ⟨minBucket, minStored, result⟩ := bind_ok result
  obtain ⟨maxBucket, maxStored, result⟩ := bind_ok result
  obtain ⟨payloadBytes, payloadStored, result⟩ := bind_ok result
  obtain ⟨rfl, seqBound⟩ := integer_ok seqStored
  obtain ⟨rfl, createdBound⟩ := integer_ok createdStored
  obtain ⟨rfl, payloadBound⟩ := integer_ok payloadStored
  rw [← pure_ok result]
  constructor
  · dsimp only
    omega
  · dsimp only
    omega
  · dsimp only
    omega
  · exact optionalInteger_bound minStored
  · exact optionalInteger_bound maxStored

theorem Stored.columns (stored : Stored limits envelope tables evicted next)
    (columns : ∀ row ∈ tables.batches, row.Unsigned) : ∀ row ∈ next.batches, row.Unsigned := by
  cases stored with
  | oversized tooLarge => exact columns
  | kept fits params evictions settled =>
      intro row member
      rcases List.mem_append.mp (evictions.batches_subset member) with old | new
      · exact columns row old
      · rw [List.mem_singleton.mp new]
        exact batchParams_unsigned params

theorem Accounts.pending (accounts : Accounts external enqueued acknowledged tables)
    (columns : ∀ row ∈ tables.batches, row.Unsigned) : tables.Pending := by
  refine ⟨columns, accounts.batches_nodup, ?_⟩
  intro row stored gap recorded same
  have disjoint := (List.nodup_append.mp (List.nodup_append.mp accounts.seq_nodup).1).2.2
  exact disjoint _ (List.mem_map_of_mem stored) _ (List.mem_map_of_mem recorded) same.symm

structure SpoolHistory.Checked (external : External) (history : SpoolHistory) : Prop where
  accounted : history.Accounted external
  columns : ∀ row ∈ history.tables.batches, row.Unsigned

theorem SpoolHistory.Checked.pending (checked : history.Checked external) :
    history.tables.Pending :=
  checked.accounted.accounts.pending checked.columns

theorem SpoolHistory.Checked.step (checked : history.Checked external) (call : SpoolCall) :
    (history.step external call).Checked external := by
  refine ⟨checked.accounted.step call, ?_⟩
  cases call with
  | «open» faults limits =>
      obtain ⟨tables, current, opened, same | created, _⟩ := history.step_open faults limits
      · rw [opened, same]
        exact checked.columns
      · rw [opened, created]
        exact checked.columns
  | enqueue faults args =>
      rcases history.step_enqueue faults args with same | ⟨limits, value, next, _, result, after⟩
      · rw [same]
        exact checked.columns
      · rw [after]
        obtain ⟨_, _, stored⟩ := checked.accounted.enqueue_ok result
        exact stored.columns checked.columns
  | acknowledge faults batchId checksum =>
      rcases checked.accounted.step_acknowledge faults batchId checksum with same | settled
      · rw [same]
        exact checked.columns
      · rw [settled]
        exact fun row kept => checked.columns row (List.mem_of_mem_filter kept)

theorem SpoolHistory.run_checked (external : External) (calls : List SpoolCall) :
    (SpoolHistory.run external calls).Checked external := by
  apply run_invariant
  · exact ⟨⟨accounts_initial external, rfl⟩, by simp⟩
  · intro history call _ checked
    exact checked.step call

end Reachable

def SpoolTables.bytesFrom (tables : SpoolTables) (seq : Int) (counted : BatchRow → Bool) : Int :=
  ((tables.batches.filter fun row => decide (seq ≤ row.seq) && counted row).map
    (·.payloadBytes)).sum

def BatchRow.unexpired (limits : SpoolLimits) (now : UInt64) (row : BatchRow) : Bool :=
  decide ((ageCutoff now limits.maxAgeSeconds : Int) ≤ row.createdAt)

def SpoolTables.offered (tables : SpoolTables) (envelope : BatchEnvelope) : SpoolTables :=
  { tables with batches := tables.batches ++ [batchRow envelope] }

/-- Every unexpired batch that was evicted had to go: from it on the unexpired batches alone,
with the new one, are over the byte limit. -/
def EvictedByNeed (limits : SpoolLimits) (envelope : BatchEnvelope) (tables next : SpoolTables) :
    Prop :=
  ∀ row ∈ tables.batches, row.unexpired limits envelope.body.createdAt = true →
    row ∉ next.batches →
    limits.maxPayloadBytes.toNat < (tables.offered envelope).bytesFrom row.seq
      (·.unexpired limits envelope.body.createdAt)

/-- No unexpired batch is over the byte limit only by expired batches that come after it. -/
def ExpiredDecideNothing (limits : SpoolLimits) (envelope : BatchEnvelope)
    (tables : SpoolTables) : Prop :=
  ∀ row ∈ tables.batches, row.unexpired limits envelope.body.createdAt = true →
    limits.maxPayloadBytes.toNat < (tables.offered envelope).bytesFrom row.seq (fun _ => true) →
    limits.maxPayloadBytes.toNat < (tables.offered envelope).bytesFrom row.seq
      (·.unexpired limits envelope.body.createdAt)

instance (limits : SpoolLimits) (envelope : BatchEnvelope) (tables next : SpoolTables) :
    Decidable (EvictedByNeed limits envelope tables next) :=
  inferInstanceAs (Decidable (∀ row ∈ tables.batches, _ → _ → _))

instance (limits : SpoolLimits) (envelope : BatchEnvelope) (tables : SpoolTables) :
    Decidable (ExpiredDecideNothing limits envelope tables) :=
  inferInstanceAs (Decidable (∀ row ∈ tables.batches, _ → _ → _))

theorem SpoolTables.Pending.survives_iff {tables : SpoolTables} (pending : tables.Pending)
    {cutoff : Nat} {maxPayloadBytes : Int} {row : BatchRow} (member : row ∈ tables.batches) :
    tables.Survives cutoff maxPayloadBytes row ↔
      tables.bytesFrom row.seq (fun _ => true) ≤ maxPayloadBytes ∧
        (cutoff : Int) ≤ row.createdAt := by
  have nonneg : ∀ other ∈ tables.inOrder, 0 ≤ other.payloadBytes := fun other listed =>
    pending.payloadBytes_nonneg other (SpoolTables.mem_inOrder.mp listed)
  have inside : row ∈ withinBudget (·.payloadBytes) maxPayloadBytes tables.inOrder ↔
      ((tables.inOrder.filter fun other => decide (row.seq ≤ other.seq)).map
        (·.payloadBytes)).sum ≤ maxPayloadBytes :=
    mem_withinBudget_iff pending.inOrder_lt nonneg (SpoolTables.mem_inOrder.mpr member)
  have sums : ((tables.inOrder.filter fun other => decide (row.seq ≤ other.seq)).map
      (·.payloadBytes)).sum = tables.bytesFrom row.seq fun _ => true := by
    have sameRows := (orderBy_perm (·.seq) tables.batches).filter
      fun other => decide (row.seq ≤ other.seq)
    simp only [SpoolTables.bytesFrom, Bool.and_true]
    exact (sameRows.map (·.payloadBytes)).sum_eq
  rw [SpoolTables.Survives, inside, sums]

section Enqueue

variable {limits : SpoolLimits} {envelope : BatchEnvelope} {tables next : SpoolTables}
  {evicted : Nat}

theorem Stored.unexpired_mem_iff (pending : ∀ row, batchParams envelope = .ok row →
      (tables.offered envelope).Pending)
    (stored : Stored limits envelope tables evicted next) {row : BatchRow}
    (member : row ∈ tables.batches)
    (young : row.unexpired limits envelope.body.createdAt = true) :
    row ∈ next.batches ↔ limits.maxPayloadBytes.toNat < (toVec envelope).utf8ByteSize ∨
      (tables.offered envelope).bytesFrom row.seq (fun _ => true) ≤
        limits.maxPayloadBytes.toNat := by
  cases stored with
  | oversized tooLarge => simp [member, tooLarge]
  | kept fits params evictions settled =>
      have offered := pending _ params
      have listed : row ∈ (tables.offered envelope).batches := List.mem_append_left _ member
      have fitting : ¬limits.maxPayloadBytes.toNat < (toVec envelope).utf8ByteSize := by omega
      rw [(evictions.enforced offered settled).1, SpoolTables.enforced, List.mem_filter,
        decide_eq_true_iff]
      have survives : (tables.offered envelope).Survives
          (ageCutoff envelope.body.createdAt limits.maxAgeSeconds) limits.maxPayloadBytes.toNat
          row ↔ _ := offered.survives_iff listed
      have recent := of_decide_eq_true young
      constructor
      · rintro ⟨_, kept⟩
        exact Or.inr (survives.mp kept).1
      · rintro (large | fits)
        · exact absurd large fitting
        · exact ⟨listed, survives.mpr ⟨fits, recent⟩⟩

theorem Stored.evictedByNeed_iff (pending : ∀ row, batchParams envelope = .ok row →
      (tables.offered envelope).Pending)
    (stored : Stored limits envelope tables evicted next) :
    EvictedByNeed limits envelope tables next ↔
      limits.maxPayloadBytes.toNat < (toVec envelope).utf8ByteSize ∨
        ExpiredDecideNothing limits envelope tables := by
  constructor
  · intro needed
    by_cases large : limits.maxPayloadBytes.toNat < (toVec envelope).utf8ByteSize
    · exact Or.inl large
    · right
      intro row member young exceeds
      apply needed row member young
      rw [stored.unexpired_mem_iff pending member young]
      rintro (tooLarge | fits)
      · exact large tooLarge
      · omega
  · intro condition row member young gone
    rw [stored.unexpired_mem_iff pending member young, not_or] at gone
    rcases condition with large | decides
    · exact absurd large gone.1
    · exact decides row member young (by omega)

end Enqueue

theorem SpoolHistory.Checked.offered {external : External} {history : SpoolHistory}
    (checked : history.Checked external) {envelope : BatchEnvelope}
    (isSealed : envelope.Sealed external)
    (fresh : envelope.body.seq.toNat = history.enqueued.length) {row : BatchRow}
    (params : batchParams envelope = .ok row) :
    (SpoolTables.offered { history.tables with
      nextSeq := some (envelope.body.seq.toNat + 1 : Int) } envelope).Pending := by
  apply (checked.accounted.accounts.insert isSealed fresh).pending
  intro other member
  rcases List.mem_append.mp member with old | new
  · exact checked.columns other old
  · rw [List.mem_singleton.mp new, ← batchParams_ok params]
    exact batchParams_unsigned params

/-- A successful `enqueue` evicts unexpired batches only by need exactly when the new batch is
over the byte limit on its own, or no expired batch decides. -/
theorem enqueue_evicts_by_need_iff (external : External) (calls : List SpoolCall)
    (faults : SpoolFaults) (limits : SpoolLimits) (args : EnqueueArgs) (value : EnqueueResult)
    (next : SpoolTables)
    (result : Spool.enqueue external faults limits args (SpoolHistory.run external calls).tables =
      (.ok value, next)) :
    let tables := (SpoolHistory.run external calls).tables
    let envelope := tables.nextEnvelope external args
    EvictedByNeed limits envelope tables next ↔
      limits.maxPayloadBytes.toNat < (toVec envelope).utf8ByteSize ∨
        ExpiredDecideNothing limits envelope tables := by
  intro tables envelope
  have checked := SpoolHistory.run_checked external calls
  obtain ⟨fresh, _, stored⟩ := checked.accounted.enqueue_ok result
  have isSealed : envelope.Sealed external := BatchEnvelope.new_sealed ..
  have exactly := stored.evictedByNeed_iff fun row params => checked.offered isSealed fresh params
  exact exactly

/-! Three batches without buckets. The clock steps back before the second, so that the third
finds the second expired and the first not. -/

def steppedLimits : SpoolLimits := { maxPayloadBytes := 600, maxAgeSeconds := 50 }

def steppedBatch (createdAt : UInt64) : EnqueueArgs where
  nodeId := "s"
  bootId := "b"
  createdAt
  buckets := []
  diagnostics := {}

def steppedExternal : External := External.ofTable [
    (((steppedBatch 100).envelope (External.ofTable [] []) 0).body.toJson.render,
      #[112, 64, 158, 36, 69, 197, 74, 118, 213, 16, 29, 242, 79, 115, 238, 93, 155, 241, 67,
      225, 30, 151, 247, 229, 140, 106, 142, 119, 218, 43, 8, 222].toVector),
    (((steppedBatch 10).envelope (External.ofTable [] []) 1).body.toJson.render,
      ⟨#[71, 76, 99, 48, 152, 139, 122, 120, 22, 46, 171, 140, 43, 71, 209, 188, 190, 207, 101,
      252, 67, 15, 241, 222, 2, 197, 94, 198, 135, 14, 106, 98], rfl⟩),
    (((steppedBatch 110).envelope (External.ofTable [] []) 2).body.toJson.render,
      ⟨#[151, 100, 22, 23, 140, 195, 221, 19, 147, 57, 144, 163, 164, 120, 77, 68, 229, 197, 32,
      151, 136, 23, 185, 157, 120, 106, 100, 49, 110, 89, 98, 72], rfl⟩)] []

def steppedCalls : List SpoolCall := [
    .open noFaults steppedLimits, .enqueue noFaults (steppedBatch 100),
    .enqueue noFaults (steppedBatch 10)]

/-- The first two batches hold 577 bytes, and the first and the third 578 of the 600 there are. -/
theorem clock_step_evicts_needlessly :
    (Spool.enqueue steppedExternal noFaults steppedLimits (steppedBatch 110)
        (SpoolHistory.run steppedExternal steppedCalls).tables).1 =
      .ok { batchId := "s:b:2:976416178cc3dd13", evictedBatches := 2 } ∧
    (Spool.enqueue steppedExternal noFaults steppedLimits (steppedBatch 110)
        (SpoolHistory.run steppedExternal steppedCalls).tables).2.gaps.map (·.reason) =
      ["spool_byte_limit", "spool_age_limit"] ∧
    ¬EvictedByNeed steppedLimits
        ((SpoolHistory.run steppedExternal steppedCalls).tables.nextEnvelope steppedExternal
          (steppedBatch 110))
        (SpoolHistory.run steppedExternal steppedCalls).tables
        (Spool.enqueue steppedExternal noFaults steppedLimits (steppedBatch 110)
          (SpoolHistory.run steppedExternal steppedCalls).tables).2 := by
  decide +kernel

def tightLimits : SpoolLimits := { maxPayloadBytes := 300, maxAgeSeconds := 50 }

theorem enqueue_evicts_by_need_iff_tight :
    EvictedByNeed tightLimits
      ((SpoolHistory.run steppedExternal
        [.open noFaults tightLimits, .enqueue noFaults (steppedBatch 100)]).tables.nextEnvelope
          steppedExternal (steppedBatch 10))
      (SpoolHistory.run steppedExternal
        [.open noFaults tightLimits, .enqueue noFaults (steppedBatch 100)]).tables
      (Spool.enqueue steppedExternal noFaults tightLimits (steppedBatch 10)
        (SpoolHistory.run steppedExternal
          [.open noFaults tightLimits, .enqueue noFaults (steppedBatch 100)]).tables).2 := by
  have accepted : (Spool.enqueue steppedExternal noFaults tightLimits (steppedBatch 10)
      (SpoolHistory.run steppedExternal
        [.open noFaults tightLimits, .enqueue noFaults (steppedBatch 100)]).tables).1 =
        .ok { batchId := "s:b:1:474c6330988b7a78", evictedBatches := 1 } := by
    decide +kernel
  refine (enqueue_evicts_by_need_iff steppedExternal _ noFaults tightLimits _ _ _
    (eq_of_fst accepted)).mpr (Or.inr ?_)
  decide +kernel

end FlowObservability
