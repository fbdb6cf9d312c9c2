import FlowObservability.SpoolHistory

/-!
The limits of the spool after an `enqueue`. The byte limit always holds; the age limit
holds unless a batch over the byte limit returned before the loop that enforces it.
-/

namespace FlowObservability

open Runs Table Transaction

def SpoolCall.OpensWith (limits : SpoolLimits) : SpoolCall → Prop
  | .open _ other => other = limits
  | .enqueue _ _ => True
  | .acknowledge _ _ _ => True

structure SpoolTables.Within (tables : SpoolTables) (limits : SpoolLimits) (createdAt : UInt64) :
    Prop where
  bytes : tables.totalBytes ≤ limits.maxPayloadBytes.toNat
  age : ∀ row ∈ tables.batches, (ageCutoff createdAt limits.maxAgeSeconds : Int) ≤ row.createdAt

instance (tables : SpoolTables) (limits : SpoolLimits) (createdAt : UInt64) :
    Decidable (tables.Within limits createdAt) :=
  decidable_of_iff
    (tables.totalBytes ≤ limits.maxPayloadBytes.toNat ∧
      ∀ row ∈ tables.batches, (ageCutoff createdAt limits.maxAgeSeconds : Int) ≤ row.createdAt)
    ⟨fun parts => ⟨parts.1, parts.2⟩, fun within => ⟨within.bytes, within.age⟩⟩

structure SpoolHistory.Budgeted (external : External) (limits : SpoolLimits)
    (history : SpoolHistory) : Prop where
  accounted : history.Accounted external
  fixed : ∀ current, history.limits = some current → current = limits
  bytes : history.tables.totalBytes ≤ limits.maxPayloadBytes.toNat

theorem settled_bytes {tables : SpoolTables} {cutoff : Nat} {maxPayloadBytes : Nat}
    (settled : tables.due cutoff maxPayloadBytes = none) :
    tables.totalBytes ≤ maxPayloadBytes := by
  cases stored : tables.batches with
  | nil => simp [SpoolTables.totalBytes, stored]
  | cons row rest => exact (due_none settled row (by simp [stored])).2

section Invariant

variable {external : External} {enqueued : List BatchEnvelope} {acknowledged : List BatchRow}
  {tables next : SpoolTables} {history : SpoolHistory} {limits : SpoolLimits}

theorem Accounts.payloadBytes_nonneg (accounts : Accounts external enqueued acknowledged tables) :
    ∀ row ∈ tables.batches, 0 ≤ row.payloadBytes := by
  intro row member
  obtain ⟨envelope, _, same⟩ := accounts.stored row member
  simp [same, batchRow]

theorem Stored.within_iff {envelope : BatchEnvelope} {evicted : Nat}
    (stored : Stored limits envelope tables evicted next)
    (bytes : tables.totalBytes ≤ limits.maxPayloadBytes.toNat) :
    next.totalBytes ≤ limits.maxPayloadBytes.toNat ∧
      (next.Within limits envelope.body.createdAt ↔
        (toVec envelope).utf8ByteSize ≤ limits.maxPayloadBytes.toNat ∨
          ∀ row ∈ tables.batches,
            (ageCutoff envelope.body.createdAt limits.maxAgeSeconds : Int) ≤ row.createdAt) := by
  cases stored with
  | oversized tooLarge =>
      refine ⟨bytes, ?_⟩
      constructor
      · intro within
        exact Or.inr within.age
      · rintro (fits | young)
        · omega
        · exact ⟨bytes, young⟩
  | kept fits params evictions settled =>
      refine ⟨settled_bytes settled, ?_⟩
      constructor
      · intro _
        exact Or.inl fits
      · intro _
        exact ⟨settled_bytes settled, fun row member => (due_none settled row member).1⟩

theorem SpoolHistory.Budgeted.open (budgeted : history.Budgeted external limits)
    (faults : SpoolFaults) :
    (history.step external (.open faults limits)).Budgeted external limits := by
  have accounted := budgeted.accounted.step (.open faults limits)
  obtain ⟨tables, current, opened, tablesEq, currentEq⟩ := history.step_open faults limits
  rw [opened] at accounted ⊢
  refine ⟨accounted, ?_, ?_⟩
  · rcases currentEq with rfl | rfl
    · exact budgeted.fixed
    · intro spoolLimits same
      exact (Option.some.inj same).symm
  · rcases tablesEq with rfl | rfl
    · exact budgeted.bytes
    · exact budgeted.bytes

theorem SpoolHistory.Budgeted.enqueue (budgeted : history.Budgeted external limits)
    (faults : SpoolFaults) (args : EnqueueArgs) :
    (history.step external (.enqueue faults args)).Budgeted external limits := by
  have accounted := budgeted.accounted.step (.enqueue faults args)
  rcases history.step_enqueue faults args with same | ⟨current, value, next, opened, result, after⟩
  · rw [same]
    exact budgeted
  · obtain rfl := budgeted.fixed current opened
    rw [after] at accounted ⊢
    obtain ⟨_, _, stored⟩ := budgeted.accounted.enqueue_ok result
    exact ⟨accounted, budgeted.fixed, (stored.within_iff budgeted.bytes).1⟩

theorem SpoolHistory.Budgeted.acknowledge (budgeted : history.Budgeted external limits)
    (faults : SpoolFaults) (batchId checksum : String) :
    (history.step external (.acknowledge faults batchId checksum)).Budgeted external limits := by
  have accounted := budgeted.accounted.step (.acknowledge faults batchId checksum)
  rcases budgeted.accounted.step_acknowledge faults batchId checksum with same | settled
  · rw [same]
    exact budgeted
  · rw [settled] at accounted ⊢
    have nonneg := budgeted.accounted.accounts.payloadBytes_nonneg
    exact ⟨accounted, budgeted.fixed,
      le_trans (SpoolTables.totalBytes_filter_le nonneg _) budgeted.bytes⟩

theorem SpoolHistory.Budgeted.step (budgeted : history.Budgeted external limits)
    (call : SpoolCall) (fixed : call.OpensWith limits) :
    (history.step external call).Budgeted external limits := by
  cases call with
  | «open» faults other =>
      have same : other = limits := fixed
      subst same
      exact budgeted.open faults
  | enqueue faults args => exact budgeted.enqueue faults args
  | acknowledge faults batchId checksum => exact budgeted.acknowledge faults batchId checksum

theorem SpoolHistory.run_budgeted (external : External) {calls : List SpoolCall}
    (fixed : ∀ call ∈ calls, call.OpensWith limits) :
    (SpoolHistory.run external calls).Budgeted external limits := by
  apply run_invariant
  · exact ⟨⟨accounts_initial external, rfl⟩, by simp, by simp [SpoolTables.totalBytes]⟩
  · intro history call member budgeted
    exact budgeted.step call (fixed call member)

end Invariant

/-- After a successful `enqueue` of a run under fixed limits both limits hold exactly when the
batch is within the byte limit or no pending batch had expired before it. -/
theorem enqueue_within_limits_iff (external : External) (limits : SpoolLimits)
    (calls : List SpoolCall) (fixed : ∀ call ∈ calls, call.OpensWith limits)
    (faults : SpoolFaults) (args : EnqueueArgs) (value : EnqueueResult) (next : SpoolTables)
    (result : Spool.enqueue external faults limits args (SpoolHistory.run external calls).tables =
      (.ok value, next)) :
    next.Within limits args.createdAt ↔
      (toVec ((SpoolHistory.run external calls).tables.nextEnvelope external args)).utf8ByteSize ≤
          limits.maxPayloadBytes.toNat ∨
        ∀ row ∈ (SpoolHistory.run external calls).tables.batches,
          (ageCutoff args.createdAt limits.maxAgeSeconds : Int) ≤ row.createdAt := by
  have budgeted := SpoolHistory.run_budgeted external fixed
  obtain ⟨_, _, stored⟩ := budgeted.accounted.enqueue_ok result
  exact (stored.within_iff budgeted.bytes).2

/-! A batch without buckets, then a batch of one bucket that is over a limit of 400 bytes. -/

def budgetLimits : SpoolLimits := { maxPayloadBytes := 400, maxAgeSeconds := 10 }

def smallBatch : EnqueueArgs where
  nodeId := "s"
  bootId := "b"
  createdAt := 100
  buckets := []
  diagnostics := {}

def largeBatch : EnqueueArgs where
  nodeId := "s"
  bootId := "b"
  createdAt := 200
  buckets := [{
    bucketStart := 200
    key := {
      capturePoint := "p"
      direction := .egress
      protocol := .tcp
      sourceIp := .v4 10 0 0 1
      destinationIp := .v4 1 1 1 1
      sourcePort := some 5
      destinationPort := none
    }
    packets := 1
    bytes := 100
  }]
  diagnostics := {}

def budgetExternal : External := External.ofTable [
    ((smallBatch.envelope (External.ofTable [] []) 0).body.toJson.render,
      ⟨#[112, 64, 158, 36, 69, 197, 74, 118, 213, 16, 29, 242, 79, 115, 238, 93, 155, 241, 67,
      225, 30, 151, 247, 229, 140, 106, 142, 119, 218, 43, 8, 222], rfl⟩),
    ((largeBatch.envelope (External.ofTable [] []) 1).body.toJson.render,
      ⟨#[170, 68, 19, 22, 106, 88, 172, 57, 230, 131, 36, 177, 135, 26, 17, 173, 230, 164, 111,
      193, 48, 44, 254, 45, 115, 199, 253, 175, 108, 206, 89, 98], rfl⟩)] []

def budgetCalls : List SpoolCall := [.open noFaults budgetLimits, .enqueue noFaults smallBatch]

/-- The batch over the limit is a gap at once, and the batch that expired before it stays. -/
theorem oversized_enqueue_keeps_expired_batch :
    (Spool.enqueue budgetExternal noFaults budgetLimits largeBatch
        (SpoolHistory.run budgetExternal budgetCalls).tables).1 =
      .ok { batchId := "s:b:1:aa4413166a58ac39", evictedBatches := 1 } ∧
    ¬(Spool.enqueue budgetExternal noFaults budgetLimits largeBatch
        (SpoolHistory.run budgetExternal budgetCalls).tables).2.Within budgetLimits
          largeBatch.createdAt := by
  decide +kernel

theorem enqueue_within_limits_iff_smallBatch :
    (Spool.enqueue budgetExternal noFaults budgetLimits smallBatch
      (SpoolHistory.run budgetExternal [.open noFaults budgetLimits]).tables).2.Within budgetLimits
        smallBatch.createdAt := by
  have accepted : (Spool.enqueue budgetExternal noFaults budgetLimits smallBatch
      (SpoolHistory.run budgetExternal [.open noFaults budgetLimits]).tables).1 =
        .ok { batchId := "s:b:0:70409e2445c54a76", evictedBatches := 0 } := by
    decide +kernel
  have fixed : ∀ call ∈ [SpoolCall.open noFaults budgetLimits], call.OpensWith budgetLimits := by
    intro call member
    rw [List.mem_singleton.mp member]
    rfl
  refine (enqueue_within_limits_iff budgetExternal budgetLimits _ fixed noFaults smallBatch _ _
    (eq_of_fst accepted)).mpr (Or.inl ?_)
  decide +kernel

end FlowObservability
