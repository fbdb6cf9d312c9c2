import FlowObservability.AggregateSplit
import FlowObservability.CaptureCounters
import FlowObservability.CaptureRounds

/-!
What a capture that ends in an error of pcap has lost: the packets its aggregator held and, where
`capture.stats` failed, those of the buckets it had just drained.
-/

namespace FlowObservability

open Runs Table Transaction

def CountedIn (bucketSeconds : UInt64) (enqueued : List BatchEnvelope)
    (packets : List PacketMeta) : Prop :=
  ∃ portions, List.Forall₂ (fun envelope portion =>
    envelope.body.buckets = tallied bucketSeconds portion) enqueued portions ∧
      packets.Perm portions.flatten

section Counted

variable {bucketSeconds : UInt64} {enqueued : List BatchEnvelope} {packets rest : List PacketMeta}
  {portions : List (List PacketMeta)}

theorem flatMap_buckets (batches : List.Forall₂ (fun envelope portion =>
    envelope.body.buckets = tallied bucketSeconds portion) enqueued portions) :
    enqueued.flatMap (·.body.buckets) = portions.flatMap (tallied bucketSeconds) := by
  induction batches with
  | nil => rfl
  | cons same _ ih => rw [List.flatMap_cons, List.flatMap_cons, same, ih]

theorem packetsIn_perm {packets others : List PacketMeta} (same : packets.Perm others)
    (slot : FlowSlot) :
    (packetsIn bucketSeconds slot packets).length = (packetsIn bucketSeconds slot others).length :=
  (same.filter _).length_eq

theorem portions_count (bucketSeconds : UInt64) (portions : List (List PacketMeta))
    (few : portions.flatten.length < 2 ^ 64) (slot : FlowSlot) :
    ((entriesIn slot (portions.flatMap (tallied bucketSeconds))).map (·.packets.toNat)).sum =
      (packetsIn bucketSeconds slot portions.flatten).length := by
  have ones : ((packetsIn bucketSeconds slot portions.flatten).map
      fun _ => (1 : UInt64).toNat).sum = (packetsIn bucketSeconds slot portions.flatten).length := by
    simp
  have fits : (packetsIn bucketSeconds slot portions.flatten).length < 2 ^ 64 :=
    Nat.lt_of_le_of_lt (List.length_filter_le _ _) few
  rw [← ones] at fits ⊢
  exact portions_sum Prod.fst (fun _ => 1) rfl (fun _ _ => rfl) (· == slot) portions fits

theorem not_countedIn_of_rest (batches : List.Forall₂ (fun envelope portion =>
      envelope.body.buckets = tallied bucketSeconds portion) enqueued portions)
    (packetsSame : packets.Perm (portions.flatten ++ rest)) (nonempty : rest ≠ [])
    (few : packets.length < 2 ^ 64) : ¬CountedIn bucketSeconds enqueued packets := by
  rintro ⟨others, othersBatches, othersSame⟩
  obtain ⟨packet, member⟩ := List.exists_mem_of_ne_nil rest nonempty
  have length := packetsSame.length_eq
  have othersLength := othersSame.length_eq
  rw [List.length_append] at length
  have counted := portions_count bucketSeconds portions (by omega) (slotOf bucketSeconds packet)
  have othersCounted := portions_count bucketSeconds others (by omega)
    (slotOf bucketSeconds packet)
  rw [← flatMap_buckets othersBatches, flatMap_buckets batches, counted,
    ← packetsIn_perm othersSame, packetsIn_perm packetsSame] at othersCounted
  have here : packet ∈ packetsIn bucketSeconds (slotOf bucketSeconds packet) rest :=
    List.mem_filter.mpr ⟨member, by simp⟩
  have positive := List.length_pos_of_mem here
  simp only [packetsIn, List.filter_append, List.length_append] at othersCounted positive
  omega

end Counted

theorem Aggregator.Holds.entries_eq_nil {aggregator : Aggregator} {held : List PacketMeta}
    (holds : aggregator.Holds held) : aggregator.entries = [] ↔ held = [] := by
  have entries : aggregator.entries = tallied aggregator.bucketSeconds held := toBuckets_eq holds
  rw [entries]
  constructor
  · exact tallied_eq_nil
  · rintro rfl
    rfl

namespace CaptureRun

def FailsEmpty (before : CaptureRun) (tick : Tick) : Prop :=
  before.aggregator.entries = [] ∧ ∃ cause, tick.next = .error cause ∧ cause ≠ .timeoutExpired

variable {external : External} {config : CaptureConfig} {run next : CaptureRun}
  {linkType : Int32} {tick : Tick} {error : PcapError}

theorem receive_failed {next : Except PcapError CapturedPacket} (running : run.result = none)
    (failed : (run.receive config linkType next).result = some (.error (.pcap error))) :
    next = .error error ∧ error ≠ .timeoutExpired ∧
      run.receive config linkType next = run.fail (.pcap error) := by
  unfold receive at failed ⊢
  split at failed
  · split at failed
    · simp [running] at failed
    · simp [running] at failed
    · simp [running] at failed
    · simp [CaptureRun.fail] at failed
  · simp [running] at failed
  · rename_i cause other
    simp only [CaptureRun.fail, Option.some.injEq, Except.error.injEq,
      CaptureError.pcap.injEq] at failed
    subst failed
    exact ⟨rfl, fun same => other same, rfl⟩

theorem receive_running {next : Except PcapError CapturedPacket}
    (running : (run.receive config linkType next).result = none) :
    ∀ cause, next = .error cause → cause = .timeoutExpired := by
  rintro cause rfl
  unfold receive at running
  split at running
  · rename_i same
    cases same
  · rename_i same
    exact Except.error.inj same
  · simp [CaptureRun.fail] at running

theorem Stores.result {buckets : List FlowBucket} {diagnostics : CaptureDiagnostics}
    (stores : Stores external config buckets diagnostics run next) : next.result = run.result := by
  cases stores with
  | batch => rfl

theorem Closed.result_ne (closed : Closed external config run next) (running : run.result = none) :
    next.result ≠ some (.error (.pcap error)) := by
  cases closed with
  | failed => simp [CaptureRun.fail]
  | more => simp [running]
  | nothing => simp
  | unsent => simp [CaptureRun.fail]
  | last => simp

theorem Drained.failed (drained : Drained external config tick run next)
    (running : run.result = none) (failed : next.result = some (.error (.pcap error))) :
    (∃ bound, (run.aggregator.drainBefore bound).1 ≠ []) ∧ next.enqueued = run.enqueued ∧
      next.accepted = run.accepted := by
  cases drained with
  | stopped => simp [CaptureRun.fail] at failed
  | quiet => simp [running] at failed
  | unsampled _ drained => exact ⟨⟨_, drained⟩, rfl, rfl⟩
  | unsent => simp [CaptureRun.fail] at failed
  | sent _ _ _ stores closed =>
      exact absurd failed (closed.result_ne (stores.result.trans running))

/-- What the packets accepted and the batches enqueued are when a round fails in pcap: the packets
that are left over were in the aggregator before it, or came to it in this round. -/
theorem Counted.failed (counted : run.Counted config) (running : run.result = none)
    (failed : (run.step external config linkType tick).result = some (.error (.pcap error))) :
    ∃ portions rest, List.Forall₂ (fun envelope portion =>
        envelope.body.buckets = tallied config.bucketSeconds portion)
          (run.step external config linkType tick).enqueued portions ∧
      (run.step external config linkType tick).accepted.Perm (portions.flatten ++ rest) ∧
      (rest = [] ↔ run.FailsEmpty tick) := by
  unfold CaptureRun.step at failed ⊢
  simp only [running] at failed ⊢
  cases received : (run.receive config linkType tick.next).result with
  | some value =>
      simp only [received] at failed ⊢
      obtain ⟨packet, other, same⟩ := receive_failed running (received.trans failed)
      obtain ⟨held, ⟨⟨portions, buckets, accepted⟩, _, _⟩, holding, _⟩ := counted
      obtain ⟨_, holds⟩ := holding running
      rw [same]
      refine ⟨portions, held, buckets, accepted, ?_⟩
      simp [FailsEmpty, holds.entries_eq_nil, packet, other]
  | none =>
      simp only [received] at failed ⊢
      obtain ⟨held, ⟨⟨portions, buckets, accepted⟩, _, _⟩, holding, _⟩ :=
        counted.received running (receive_received run config linkType tick.next)
      obtain ⟨_, holds⟩ := holding received
      obtain ⟨⟨bound, lost⟩, enqueued, kept⟩ :=
        (drain_drained _ external config tick).failed received failed
      rw [enqueued, kept]
      refine ⟨portions, held, buckets, accepted, ?_⟩
      constructor
      · rintro rfl
        rw [(holds.drainBefore bound).1] at lost
        exact absurd rfl lost
      · rintro ⟨_, cause, packet, other⟩
        exact absurd (receive_running received cause packet) other

def Running (run : CaptureRun) : Prop := run.result = none

theorem step_ended (run : CaptureRun) (tick : Tick) (ended : ¬run.Running) :
    run.step external config linkType tick = run := by
  unfold CaptureRun.step
  cases result : run.result with
  | none => exact absurd result ended
  | some value => rfl

end CaptureRun

/-- Over every run that fails in pcap, the batches count all the packets accepted if and only if
the round that fails does so in `next_packet` and finds the aggregator empty. -/
theorem pcap_failure_loses_nothing_iff (external : External) (config : CaptureConfig)
    (opening : Except CaptureError Int32) (openFaults : SpoolFaults) (tables : SpoolTables)
    (linkType : Int32) (started : CaptureRun) (ticks : List Tick) (error : PcapError)
    (start : config.start opening openFaults tables = .ok (linkType, started))
    (failed : (Runs.run (CaptureRun.step external config linkType) started ticks).result =
      some (.error (.pcap error))) :
    let run := Runs.run (CaptureRun.step external config linkType) started ticks
    capture external config opening openFaults ticks tables = .ok run ∧
    ∃ earlier tick later, ticks = earlier ++ tick :: later ∧
      let before := Runs.run (CaptureRun.step external config linkType) started earlier
      before.result = none ∧ run = before.step external config linkType tick ∧
      (before.FailsEmpty tick → CountedIn config.bucketSeconds run.enqueued run.accepted) ∧
      (run.accepted.length < 2 ^ 64 →
        CountedIn config.bucketSeconds run.enqueued run.accepted → before.FailsEmpty tick) := by
  intro run
  obtain ⟨_, _, _, aggregator, _, _, fresh⟩ := CaptureRun.start_ok start
  have initial : started.Running := by
    rw [fresh]
    rfl
  refine ⟨by rw [capture, start]; rfl, ?_⟩
  have ended : ¬run.Running := by
    intro running
    cases failed.symm.trans running
  obtain ⟨earlier, tick, later, same, before, last⟩ :=
    run_stops initial CaptureRun.step_ended ended
  refine ⟨earlier, tick, later, same, before, last, ?_⟩
  have now : (Runs.run (CaptureRun.step external config linkType) started earlier).Counted config :=
    CaptureRun.run_counted (CaptureRun.start_counted start)
  rw [last] at failed
  obtain ⟨portions, rest, batches, accepted, empty⟩ := now.failed before failed
  rw [← last] at batches accepted
  rw [← empty]
  constructor
  · rintro rfl
    exact ⟨portions, batches, by simpa using accepted⟩
  · intro few counted
    by_contra nonempty
    exact not_countedIn_of_rest batches accepted nonempty few counted

def downError : PcapError := .other "The interface disappeared"

def downTick : Tick where
  next := .error downError
  clock := none

/-- The packet accepted is in its bucket when pcap fails, and in no batch. -/
theorem packet_lost_on_failure :
    let run := Runs.run (CaptureRun.step busyExternal busyConfig LINKTYPE_RAW) pingStart
      [(busyRound 11 12 1).tick, downTick]
    capture busyExternal busyConfig (.ok LINKTYPE_RAW) noFaults
        [(busyRound 11 12 1).tick, downTick] {} = .ok run ∧
      run.result = some (.error (.pcap downError)) ∧ run.accepted.length = 1 ∧
      ¬CountedIn busyConfig.bucketSeconds run.enqueued run.accepted := by
  intro run
  have accepted : run.accepted.length = 1 := by decide +kernel
  have enqueued : run.enqueued = [] := by decide +kernel
  refine ⟨rfl, by decide +kernel, accepted, ?_⟩
  rintro ⟨portions, batches, packets⟩
  rw [enqueued] at batches
  cases batches
  have length := packets.length_eq
  rw [accepted] at length
  simp at length

theorem pcap_failure_loses_nothing_iff_drained :
    let run := Runs.run (CaptureRun.step busyExternal busyConfig LINKTYPE_RAW) pingStart
      [(busyRound 11 25 4294967290).tick, downTick]
    run.accepted.length = 1 ∧ run.enqueued.length = 1 ∧
      CountedIn busyConfig.bucketSeconds run.enqueued run.accepted := by
  intro run
  have accepted : run.accepted.length = 1 := by decide +kernel
  have enqueued : run.enqueued.length = 1 := by decide +kernel
  have failed : run.result = some (.error (.pcap downError)) := by decide +kernel
  refine ⟨accepted, enqueued, ?_⟩
  obtain ⟨_, earlier, tick, later, same, _, last, lossless, _⟩ := pcap_failure_loses_nothing_iff
    busyExternal busyConfig (.ok LINKTYPE_RAW) noFaults {} LINKTYPE_RAW pingStart
    [(busyRound 11 25 4294967290).tick, downTick] downError busy_start failed
  apply lossless
  rcases earlier with - | ⟨first, - | ⟨second, more⟩⟩
  · -- The first round does not fail.
    cases same
    have first : (Runs.run (CaptureRun.step busyExternal busyConfig LINKTYPE_RAW) pingStart
        [(busyRound 11 25 4294967290).tick]).result = none := by decide +kernel
    cases first.symm.trans ((congrArg CaptureRun.result last).symm.trans failed)
  · cases same
    exact ⟨by decide +kernel, downError, rfl, by decide⟩
  · simp at same

end FlowObservability
