import FlowObservability.CaptureSteps
import FlowObservability.Envelope

/-!
What any round of a capture does: the batches it stores in the spool, and the packets they count.
Unlike the laws of a run that returns, these hold in every state of the loop, after errors too.
-/

namespace FlowObservability

open Runs Table Transaction

inductive Enqueues (external : External) (limits : SpoolLimits) :
    SpoolTables → List BatchEnvelope → SpoolTables → Prop
  | none {tables} : Enqueues external limits tables [] tables
  | next {tables next last args value} {envelopes : List BatchEnvelope} (faults : SpoolFaults)
      (stored : Spool.enqueue external faults limits args tables = (.ok value, next))
      (later : Enqueues external limits next envelopes last) :
      Enqueues external limits tables (tables.nextEnvelope external args :: envelopes) last

section Enqueues

variable {external : External} {limits : SpoolLimits} {tables middle last : SpoolTables}
  {first second : List BatchEnvelope}

theorem Enqueues.single {faults : SpoolFaults} {args : EnqueueArgs} {value : EnqueueResult}
    (stored : Spool.enqueue external faults limits args tables = (.ok value, last)) :
    Enqueues external limits tables [tables.nextEnvelope external args] last :=
  .next faults stored .none

theorem Enqueues.trans (before : Enqueues external limits tables first middle)
    (after : Enqueues external limits middle second last) :
    Enqueues external limits tables (first ++ second) last := by
  induction before with
  | none => exact after
  | next faults stored _ ih => exact .next faults stored (ih after)

end Enqueues

namespace CaptureRun

variable {external : External} {config : CaptureConfig} {run next last : CaptureRun}
  {linkType : Int32} {tick : Tick}

def Advances (external : External) (config : CaptureConfig) (run next : CaptureRun) : Prop :=
  ∃ envelopes, next.enqueued = run.enqueued ++ envelopes ∧
    Enqueues external config.limits run.spool envelopes next.spool

theorem Advances.same (enqueued : next.enqueued = run.enqueued) (spool : next.spool = run.spool) :
    Advances external config run next :=
  ⟨[], by simp [enqueued], spool ▸ .none⟩

theorem Advances.trans (before : Advances external config run next)
    (after : Advances external config next last) : Advances external config run last := by
  obtain ⟨first, firstSame, firstStored⟩ := before
  obtain ⟨second, secondSame, secondStored⟩ := after
  exact ⟨first ++ second, by simp [firstSame, secondSame], firstStored.trans secondStored⟩

theorem Stores.advances {buckets : List FlowBucket} {diagnostics : CaptureDiagnostics}
    (stores : Stores external config buckets diagnostics run next) :
    Advances external config run next := by
  cases stores with
  | batch stored => exact ⟨_, rfl, .single stored⟩

theorem Closed.advances (closed : Closed external config run next) :
    Advances external config run next := by
  cases closed with
  | failed => exact .same rfl rfl
  | more => exact .same rfl rfl
  | nothing => exact .same rfl rfl
  | unsent => exact .same rfl rfl
  | last stores => exact stores.advances

theorem Drained.advances (drained : Drained external config tick run next) :
    Advances external config run next := by
  cases drained with
  | stopped => exact .same rfl rfl
  | quiet => exact .same rfl rfl
  | unsampled => exact .same rfl rfl
  | unsent => exact .same rfl rfl
  | sent _ _ _ stores closed => exact Advances.trans stores.advances closed.advances

theorem Received.advances (received : Received config run next) :
    Advances external config run next := by
  cases received with
  | accepted => exact .same rfl rfl
  | rejected => exact .same rfl rfl
  | nothing => exact .same rfl rfl
  | failed => exact .same rfl rfl

theorem step_advances (run : CaptureRun) (external : External) (config : CaptureConfig)
    (linkType : Int32) (tick : Tick) :
    Advances external config run (run.step external config linkType tick) :=
  step_keeps (.same rfl rfl) (fun _ _ received => received.advances)
    (fun _ _ _ before drained => before.trans drained.advances) linkType

/-! The packets of the batches. -/

structure Apportioned (config : CaptureConfig) (rest : List PacketMeta) (run : CaptureRun) :
    Prop where
  batches : ∃ portions, List.Forall₂ (fun envelope portion =>
    envelope.body.buckets = tallied config.bucketSeconds portion) run.enqueued portions ∧
      run.accepted.Perm (portions.flatten ++ rest)
  node : ∀ envelope ∈ run.enqueued, envelope.body.nodeId = config.nodeId
  capturePoint : ∀ packet ∈ run.accepted, packet.key.capturePoint = config.capturePoint

/-- The rest is what the aggregator holds while the loop runs; after an error it is lost, and after
a return without one it is empty. -/
def Counted (config : CaptureConfig) (run : CaptureRun) : Prop :=
  ∃ rest, run.Apportioned config rest ∧
    (run.result = none → run.aggregator.bucketSeconds = config.bucketSeconds ∧
      run.aggregator.Holds rest) ∧
    (run.result = some (.ok ()) → rest = [])

variable {held rest portion : List PacketMeta}

theorem Apportioned.perm (apportioned : run.Apportioned config held) (same : held.Perm rest) :
    run.Apportioned config rest := by
  obtain ⟨portions, buckets, accepted⟩ := apportioned.batches
  exact ⟨⟨portions, buckets, accepted.trans (same.append_left _)⟩, apportioned.node,
    apportioned.capturePoint⟩

theorem Apportioned.congr (apportioned : run.Apportioned config rest)
    (accepted : next.accepted = run.accepted) (enqueued : next.enqueued = run.enqueued) :
    next.Apportioned config rest := by
  obtain ⟨batches, node, capturePoint⟩ := apportioned
  rw [← enqueued] at batches node
  rw [← accepted] at batches capturePoint
  exact ⟨batches, node, capturePoint⟩

theorem Apportioned.failed (apportioned : run.Apportioned config rest)
    (accepted : next.accepted = run.accepted) (enqueued : next.enqueued = run.enqueued)
    {error : CaptureError} (result : next.result = some (.error error)) : next.Counted config :=
  ⟨rest, apportioned.congr accepted enqueued, by simp [result], by simp [result]⟩

theorem Apportioned.stores {diagnostics : CaptureDiagnostics}
    (apportioned : run.Apportioned config (portion ++ rest))
    (stores : Stores external config (tallied config.bucketSeconds portion) diagnostics run next) :
    next.Apportioned config rest ∧ next.aggregator = run.aggregator ∧ next.result = run.result := by
  cases stores with
  | batch stored =>
      obtain ⟨portions, before, accepted⟩ := apportioned.batches
      refine ⟨⟨⟨portions ++ [portion], ?_, ?_⟩, ?_, apportioned.capturePoint⟩, rfl, rfl⟩
      · exact List.rel_append before (.cons rfl .nil)
      · simpa using accepted
      · intro envelope member
        rcases List.mem_append.mp member with old | new
        · exact apportioned.node envelope old
        · rw [List.mem_singleton.mp new]
          rfl

theorem Apportioned.closed (apportioned : run.Apportioned config held)
    (seconds : run.aggregator.bucketSeconds = config.bucketSeconds)
    (holds : run.aggregator.Holds held) (running : run.result = none)
    (closed : Closed external config run next) : next.Counted config := by
  have remaining := holds.drainAll.1
  rw [seconds] at remaining
  cases closed with
  | failed error => exact apportioned.failed rfl rfl rfl
  | more => exact ⟨held, apportioned.congr rfl rfl, fun _ => ⟨seconds, holds⟩, by simp [running]⟩
  | nothing empty =>
      have none := tallied_eq_nil (remaining.symm.trans empty)
      subst none
      exact ⟨[], apportioned.congr rfl rfl, by simp, by simp⟩
  | unsent error => exact apportioned.failed rfl rfl rfl
  | last stores =>
      rw [remaining] at stores
      rw [← List.append_nil held] at apportioned
      have whole : ({ run with
          emitted := run.emitted + 1
          aggregator := run.aggregator.drainAll.2 } : CaptureRun).Apportioned config (held ++ []) :=
        apportioned.congr rfl rfl
      obtain ⟨complete, _⟩ := whole.stores stores
      exact ⟨[], complete.congr rfl rfl, by simp, by simp⟩

theorem Counted.drained (counted : run.Counted config) (running : run.result = none)
    (drained : Drained external config tick run next) : next.Counted config := by
  obtain ⟨held, apportioned, holding, _⟩ := counted
  obtain ⟨seconds, holds⟩ := holding running
  -- The packets before a bucket and the others are two parts of those held.
  have halves := fun now => (List.filter_append_perm (fun packet =>
    decide (bucketOf config.bucketSeconds packet.timestamp < bucketOf config.bucketSeconds now))
      held).symm
  have parts := fun now => holds.drainBefore (bucketOf config.bucketSeconds now)
  rw [seconds] at parts
  cases drained with
  | stopped => exact apportioned.failed rfl rfl rfl
  | @quiet now _ empty =>
      obtain ⟨early, late⟩ := parts now
      have none := tallied_eq_nil (early.symm.trans empty)
      have later := halves now
      rw [none] at later
      exact ⟨_, (apportioned.perm later).congr rfl rfl, fun _ => ⟨seconds, late⟩,
        by simp [running]⟩
  | unsampled => exact apportioned.failed rfl rfl rfl
  | unsent => exact apportioned.failed rfl rfl rfl
  | @sent now stat sent _ _ _ _ stores closed =>
      obtain ⟨early, late⟩ := parts now
      rw [early] at stores
      have whole : ({ run with
          aggregator := (run.aggregator.drainBefore (bucketOf config.bucketSeconds now)).2
          priorStats := totals stat
          parseErrors := 0 } : CaptureRun).Apportioned config _ :=
        (apportioned.perm (halves now)).congr rfl rfl
      obtain ⟨stored, aggregator, result⟩ := whole.stores stores
      have sentSeconds : sent.aggregator.bucketSeconds = config.bucketSeconds := by
        rw [aggregator]
        exact seconds
      refine stored.closed sentSeconds ?_ (result.trans running) closed
      rw [aggregator]
      exact late

theorem Counted.received (counted : run.Counted config) (running : run.result = none)
    (received : Received config run next) : next.Counted config := by
  obtain ⟨held, apportioned, holding, _⟩ := counted
  obtain ⟨seconds, holds⟩ := holding running
  cases received with
  | accepted packet here =>
      obtain ⟨portions, buckets, same⟩ := apportioned.batches
      refine ⟨held ++ [packet], ⟨⟨portions, buckets, ?_⟩, apportioned.node, ?_⟩,
        fun _ => ⟨seconds, holds.push packet⟩, by simp [running]⟩
      · simpa using same.append_right [packet]
      · intro other member
        rcases List.mem_append.mp member with old | new
        · exact apportioned.capturePoint other old
        · rw [List.mem_singleton.mp new]
          exact here
  | rejected =>
      exact ⟨held, apportioned.congr rfl rfl, fun _ => ⟨seconds, holds⟩, by simp [running]⟩
  | nothing => exact ⟨held, apportioned, fun _ => ⟨seconds, holds⟩, by simp [running]⟩
  | failed error => exact apportioned.failed rfl rfl rfl

theorem Counted.step (counted : run.Counted config) (external : External) (linkType : Int32)
    (tick : Tick) : (run.step external config linkType tick).Counted config := by
  refine step_keeps counted ?_ ?_ linkType
  · intro next running received
    exact counted.received running received
  · intro now next running counted drained
    exact counted.drained running drained

theorem start_counted {opening : Except CaptureError Int32} {openFaults : SpoolFaults}
    {tables : SpoolTables}
    (started : config.start opening openFaults tables = .ok (linkType, run)) :
    run.Counted config := by
  obtain ⟨_, _, _, aggregator, _, created, same⟩ := start_ok started
  obtain ⟨seconds, holds⟩ := Aggregator.new_holds created
  rw [same]
  exact ⟨[], ⟨⟨[], .nil, by simp⟩, by simp, by simp⟩, fun _ => ⟨seconds, holds⟩, by simp⟩

theorem run_counted {started : CaptureRun} {ticks : List Tick} (initial : started.Counted config) :
    (Runs.run (CaptureRun.step external config linkType) started ticks).Counted config :=
  run_invariant initial fun _ tick _ counted => counted.step external linkType tick

theorem run_advances (external : External) (config : CaptureConfig) (linkType : Int32)
    (started : CaptureRun) (ticks : List Tick) : Advances external config started
      (Runs.run (CaptureRun.step external config linkType) started ticks) :=
  run_invariant (.same rfl rfl) fun run tick _ before =>
    before.trans (run.step_advances external config linkType tick)

end CaptureRun

end FlowObservability
