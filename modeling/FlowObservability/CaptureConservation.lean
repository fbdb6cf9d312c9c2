import FlowObservability.AggregateSplit
import FlowObservability.CaptureRounds

/-!
Conservation in the capture loop: a run that returns has counted every accepted packet in one batch
and every rejected frame in the diagnostics of one.
-/

namespace FlowObservability

open Runs Table Transaction

theorem Spool.enqueue_counter {external : External} {faults : SpoolFaults} {limits : SpoolLimits}
    {args : EnqueueArgs} {tables next : SpoolTables} {value : EnqueueResult}
    (result : Spool.enqueue external faults limits args tables = (.ok value, next)) :
    ((tables.nextEnvelope external args).body.seq.toNat : Int) = tables.counter ∧
      next.counter = tables.counter + 1 := by
  obtain ⟨seq, counter, _, _, stored⟩ := Spool.enqueue_ok result
  have current : tables.counter = (seq.toNat : Int) := by simp [SpoolTables.counter, counter]
  constructor
  · simp [SpoolTables.nextEnvelope, EnqueueArgs.envelope, BatchEnvelope.new, current]
  · rw [current, SpoolTables.counter, stored.nextSeq]
    rfl

section Enqueues

variable {external : External} {limits : SpoolLimits} {tables last : SpoolTables}
  {envelopes : List BatchEnvelope}

theorem Enqueues.numbered (stored : Enqueues external limits tables envelopes last) :
    ∀ envelope ∈ envelopes, tables.counter ≤ (envelope.body.seq.toNat : Int) := by
  induction stored with
  | none => simp
  | next faults first later ih =>
      obtain ⟨number, counter⟩ := Spool.enqueue_counter first
      intro envelope member
      rcases List.mem_cons.mp member with rfl | old
      · exact number.ge
      · have after := ih envelope old
        omega

theorem Enqueues.distinct (stored : Enqueues external limits tables envelopes last) :
    (envelopes.map (·.body.seq)).Nodup := by
  induction stored with
  | none => exact List.nodup_nil
  | next faults first later ih =>
      obtain ⟨number, counter⟩ := Spool.enqueue_counter first
      rw [List.map_cons, List.nodup_cons]
      refine ⟨?_, ih⟩
      intro taken
      obtain ⟨envelope, member, same⟩ := List.mem_map.mp taken
      have after := later.numbered envelope member
      rw [same] at after
      omega

end Enqueues

namespace CaptureRun

/-- The frames rejected, when a `u64` counts them, are those in the diagnostics of the batches and,
while the loop runs, those of its counter. -/
structure Diagnosed (run : CaptureRun) : Prop where
  running : run.result = none → run.rejected < 2 ^ 64 →
    run.diagnosed (·.parseErrors) + run.parseErrors.toNat = run.rejected
  returned : run.result = some (.ok ()) → run.rejected < 2 ^ 64 →
    run.diagnosed (·.parseErrors) = run.rejected

variable {external : External} {config : CaptureConfig} {run next : CaptureRun}
  {linkType : Int32} {tick : Tick}

theorem Diagnosed.of_error {error : CaptureError} (result : run.result = some (.error error)) :
    run.Diagnosed := by
  constructor
  · intro running
    simp [result] at running
  · intro returned
    simp [result] at returned

theorem Stores.rejected {buckets : List FlowBucket} {diagnostics : CaptureDiagnostics}
    (stores : Stores external config buckets diagnostics run next) :
    next.rejected = run.rejected ∧ next.parseErrors = run.parseErrors := by
  cases stores with
  | batch => exact ⟨rfl, rfl⟩

theorem Closed.rejected (closed : Closed external config run next) :
    next.rejected = run.rejected := by
  cases closed with
  | failed => rfl
  | more => rfl
  | nothing => rfl
  | unsent => rfl
  | last stores => exact stores.rejected.1

theorem Drained.rejected (drained : Drained external config tick run next) :
    next.rejected = run.rejected := by
  cases drained with
  | stopped => rfl
  | quiet => rfl
  | unsampled => rfl
  | unsent => rfl
  | sent _ _ _ stores closed => exact closed.rejected.trans stores.rejected.1

theorem Diagnosed.received (diagnosed : run.Diagnosed) (running : run.result = none)
    (received : Received config run next) : next.Diagnosed := by
  have errors := diagnosed.running running
  cases received with
  | accepted => exact ⟨fun _ => errors, by simp [running]⟩
  | rejected =>
      refine ⟨?_, by simp [running]⟩
      intro _ bounded
      dsimp only at bounded
      have before := errors (by omega)
      have counted : (run.parseErrors + 1).toNat = run.parseErrors.toNat + 1 := by
        rw [UInt64.toNat_add, UInt64.toNat_one, Nat.mod_eq_of_lt (by omega)]
      simp only [counted, ← before, ← Nat.add_assoc]
      rfl
  | nothing => exact diagnosed
  | failed => exact .of_error rfl

theorem Diagnosed.drained (diagnosed : run.Diagnosed) (running : run.result = none)
    (drained : Drained external config tick run next) : next.Diagnosed := by
  have errors := diagnosed.running running
  rw [← drained.rejected] at errors
  cases drained with
  | stopped => exact .of_error rfl
  | quiet => exact ⟨fun _ => errors, by simp [running]⟩
  | unsampled => exact .of_error rfl
  | unsent => exact .of_error rfl
  | @sent now stat sent _ _ _ _ stores closed =>
      have reported : next.rejected < 2 ^ 64 → next.diagnosed (·.parseErrors) = next.rejected := by
        intro bounded
        rw [closed.diagnosed rfl, stores.diagnosed, ← errors bounded]
        rfl
      refine ⟨?_, fun _ => reported⟩
      intro more bounded
      have cleared : next.parseErrors = 0 := by
        rw [closed.going_on more]
        exact stores.rejected.2
      rw [reported bounded, cleared, UInt64.toNat_zero, Nat.add_zero]

theorem run_diagnosed {started : CaptureRun} {ticks : List Tick} (initial : started.Diagnosed) :
    (Runs.run (CaptureRun.step external config linkType) started ticks).Diagnosed := by
  refine run_invariant initial ?_
  intro run tick _ diagnosed
  refine step_keeps diagnosed ?_ ?_ linkType
  · intro next running received
    exact diagnosed.received running received
  · intro now next running diagnosed drained
    exact diagnosed.drained running drained

/-- The packets accepted are those of the batches enqueued, the frames rejected those of their
diagnostics, and the batches have sequence numbers of their own. -/
structure Batched (config : CaptureConfig) (run : CaptureRun) : Prop
    extends run.Apportioned config [] where
  errors : run.diagnosed (·.parseErrors) = run.rejected
  distinct : (run.enqueued.map (·.body.seq)).Nodup

theorem batched_of_capture {opening : Except CaptureError Int32} {openFaults : SpoolFaults}
    {ticks : List Tick} {tables : SpoolTables}
    (captured : capture external config opening openFaults ticks tables = .ok run)
    (returned : run.result = some (.ok ())) (bounded : run.rejected < 2 ^ 64) :
    run.Batched config := by
  obtain ⟨⟨linkType, first⟩, started, rounds⟩ := bind_ok captured
  have same := pure_ok rounds
  subst same
  obtain ⟨rest, apportioned, _, whole⟩ := run_counted (start_counted started)
  obtain ⟨envelopes, enqueued, stored⟩ := run_advances external config linkType first ticks
  obtain ⟨_, _, _, aggregator, _, _, fresh⟩ := start_ok started
  have nothing : first.enqueued = [] := by rw [fresh]
  have diagnosed : first.Diagnosed := by
    rw [fresh]
    exact ⟨fun _ _ => rfl, by simp⟩
  rw [whole returned] at apportioned
  refine { apportioned with
    errors := (run_diagnosed diagnosed).returned returned bounded
    distinct := ?_ }
  rw [enqueued, nothing, List.nil_append]
  exact stored.distinct

end CaptureRun

/-! What the buckets of the batches count. -/

section Sums

variable {column : Counters → UInt64} {weight : PacketMeta → UInt64} {bucketSeconds : UInt64}

theorem mem_tallied {packets : List PacketMeta} {bucket : FlowBucket}
    (member : bucket ∈ tallied bucketSeconds packets) : ∃ packet ∈ packets,
      bucketOf bucketSeconds packet.timestamp = bucket.bucketStart ∧ packet.key = bucket.key := by
  obtain ⟨⟨slot, group⟩, grouped, rfl⟩ := List.mem_map.mp member
  obtain ⟨subset, ⟨packet, belongs, same⟩, _⟩ := mem_groupBy grouped
  exact ⟨packet, subset belongs, congrArg (fun slot => (ofLex slot).1) same,
    congrArg (fun slot => (ofLex slot).2) same⟩

theorem tallied_start {packets : List PacketMeta} {packet : PacketMeta}
    (member : packet ∈ packets) : ∃ bucket ∈ tallied bucketSeconds packets,
      bucket.bucketStart = bucketOf bucketSeconds packet.timestamp := by
  have slot : slotOf bucketSeconds packet ∈ groupKeys (slotOf bucketSeconds) packets :=
    mem_groupKeys.mpr ⟨packet, member, rfl⟩
  exact ⟨_, List.mem_map_of_mem (List.mem_map_of_mem slot), rfl⟩

variable (zero : column (0, 0) = 0) (additive : ∀ counters packet,
  column (count counters packet) = column counters + weight packet) (start : UInt64)
include zero additive

theorem tallied_sum (packets : List PacketMeta)
    (fits : ((packets.filter fun packet => bucketOf bucketSeconds packet.timestamp == start).map
      fun packet => (weight packet).toNat).sum < 2 ^ 64) :
    (((tallied bucketSeconds packets).filter fun bucket => bucket.bucketStart == start).map
        fun bucket => (column (bucket.packets, bucket.bytes)).toNat).sum =
      ((packets.filter fun packet => bucketOf bucketSeconds packet.timestamp == start).map
        fun packet => (weight packet).toNat).sum :=
  tallied_sum_select zero additive (fun slot => (ofLex slot).1 == start) packets fits

theorem batches_sum {enqueued : List BatchEnvelope} {portions : List (List PacketMeta)}
    (batches : List.Forall₂ (fun envelope portion =>
      envelope.body.buckets = tallied bucketSeconds portion) enqueued portions)
    (fits : ((portions.flatten.filter fun packet =>
      bucketOf bucketSeconds packet.timestamp == start).map
        fun packet => (weight packet).toNat).sum < 2 ^ 64) :
    (((enqueued.flatMap (·.body.buckets)).filter fun bucket => bucket.bucketStart == start).map
        fun bucket => (column (bucket.packets, bucket.bytes)).toNat).sum =
      ((portions.flatten.filter fun packet =>
        bucketOf bucketSeconds packet.timestamp == start).map
          fun packet => (weight packet).toNat).sum := by
  induction batches with
  | nil => rfl
  | @cons envelope portion enqueued portions buckets _ ih =>
      simp only [List.flatten_cons, List.filter_append, List.map_append, List.sum_append] at fits
      simp only [List.flatMap_cons, List.flatten_cons, List.filter_append, List.map_append,
        List.sum_append, buckets]
      rw [tallied_sum zero additive start portion (by omega), ih (by omega)]

variable (column weight) in
theorem CaptureRun.Batched.sum {config : CaptureConfig} {run : CaptureRun}
    (batched : run.Batched config)
    (fits : ((run.accepted.filter fun packet =>
      bucketOf config.bucketSeconds packet.timestamp == start).map
        fun packet => (weight packet).toNat).sum < 2 ^ 64) :
    (((run.enqueued.flatMap (·.body.buckets)).filter fun bucket => bucket.bucketStart == start).map
        fun bucket => (column (bucket.packets, bucket.bytes)).toNat).sum =
      ((run.accepted.filter fun packet =>
        bucketOf config.bucketSeconds packet.timestamp == start).map
          fun packet => (weight packet).toNat).sum := by
  obtain ⟨portions, buckets, same⟩ := batched.batches
  rw [List.append_nil] at same
  have sums := ((same.filter fun packet =>
    bucketOf config.bucketSeconds packet.timestamp == start).map
      fun packet => (weight packet).toNat).sum_eq
  rw [sums] at fits ⊢
  exact batches_sum zero additive start buckets fits

end Sums

end FlowObservability
