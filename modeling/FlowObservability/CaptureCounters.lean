import FlowObservability.CaptureSteps

/-!
The counters of pcap in the batches. Each sample is a 32-bit number that wraps around, and the
batches carry the differences of the samples, taken on the widened numbers.
-/

namespace FlowObservability

open Runs Words

/-- What pcap has counted since the capture was opened. -/
structure TrueCounts where
  received : Nat := 0
  dropped : Nat := 0
  ifDropped : Nat := 0
  deriving DecidableEq, Repr

structure TrueCounts.NotAfter (earlier later : TrueCounts) : Prop where
  received : earlier.received ≤ later.received
  dropped : earlier.dropped ≤ later.dropped
  ifDropped : earlier.ifDropped ≤ later.ifDropped

def TrueCounts.sample (counts : TrueCounts) : PcapStat where
  received := UInt32.ofNat counts.received
  dropped := UInt32.ofNat counts.dropped
  ifDropped := UInt32.ofNat counts.ifDropped

structure CountedTick where
  tick : Tick
  counts : TrueCounts

def CountedTick.Faithful (round : CountedTick) : Prop :=
  ∀ stat, round.tick.stats = .ok stat → stat = round.counts.sample

namespace CaptureRun

def drainSamples (config : CaptureConfig) (tick : Tick) (run : CaptureRun) : Bool :=
  match unixSeconds tick.clock with
  | .error _ => false
  | .ok now =>
    let buckets := (run.aggregator.drainBefore (bucketOf config.bucketSeconds now)).1
    !buckets.isEmpty && tick.stats.isOk

def samples (config : CaptureConfig) (linkType : Int32) (tick : Tick) (run : CaptureRun) : Bool :=
  match run.result with
  | some _ => false
  | none =>
    let run := run.receive config linkType tick.next
    match run.result with
    | some _ => false
    | none => run.drainSamples config tick

end CaptureRun

/-- A run with the counts of its last sample, and of the last one whose batch was enqueued. -/
structure CountedRun where
  run : CaptureRun
  last : TrueCounts := {}
  sent : TrueCounts := {}

def CountedRun.step (external : External) (config : CaptureConfig) (linkType : Int32)
    (counted : CountedRun) (round : CountedTick) : CountedRun :=
  let next := counted.run.step external config linkType round.tick
  let sampled := counted.run.samples config linkType round.tick
  let enqueued := decide (counted.run.enqueued.length < next.enqueued.length)
  { run := next
    last := if sampled then round.counts else counted.last
    sent := if sampled && enqueued then round.counts else counted.sent }

namespace CaptureRun

variable {external : External} {config : CaptureConfig} {run next : CaptureRun}
  {linkType : Int32} {tick : Tick}

/-- What a round with the sample makes of the batches, from the run that asked for it. -/
structure Sampled (stat : PcapStat) (run next : CaptureRun) : Prop where
  prior : next.result = none → next.priorStats = totals stat
  batches : next.enqueued = run.enqueued ∧ next.result ≠ none ∨
    run.enqueued.length < next.enqueued.length ∧ ∃ parseErrors, ∀ field,
      field ({} : CaptureDiagnostics) = 0 → next.diagnosed field = run.diagnosed field +
        (field (diagnosticsSince run.priorStats (totals stat) parseErrors)).toNat

structure Unsampled (run next : CaptureRun) : Prop where
  enqueued : next.enqueued = run.enqueued
  prior : next.priorStats = run.priorStats

theorem Received.unsampled (received : Received config run next) : Unsampled run next := by
  cases received with
  | accepted => exact ⟨rfl, rfl⟩
  | rejected => exact ⟨rfl, rfl⟩
  | nothing => exact ⟨rfl, rfl⟩
  | failed => exact ⟨rfl, rfl⟩

theorem Stores.priorStats {buckets : List FlowBucket} {diagnostics : CaptureDiagnostics}
    (stores : Stores external config buckets diagnostics run next) :
    next.priorStats = run.priorStats ∧ next.enqueued.length = run.enqueued.length + 1 := by
  cases stores with
  | batch => exact ⟨rfl, by simp⟩

theorem Closed.longer (closed : Closed external config run next) :
    run.enqueued.length ≤ next.enqueued.length := by
  cases closed with
  | failed => exact le_rfl
  | more => exact le_rfl
  | nothing => exact le_rfl
  | unsent => exact le_rfl
  | last stores => exact stores.priorStats.2 ▸ Nat.le_succ _

theorem Drained.sampled (drained : Drained external config tick run next) :
    (run.drainSamples config tick = false ∧ Unsampled run next) ∨
      run.drainSamples config tick = true ∧ ∃ stat, tick.stats = .ok stat ∧
        Sampled stat run next := by
  unfold drainSamples
  cases drained with
  | stopped clock => exact .inl ⟨by rw [clock], rfl, rfl⟩
  | quiet clock empty => exact .inl ⟨by simp [clock, empty], rfl, rfl⟩
  | unsampled clock drained stats =>
      exact .inl ⟨by simp [clock, stats, Except.isOk, Except.toBool], rfl, rfl⟩
  | unsent clock drained stats error =>
      refine .inr ⟨by simp [clock, drained, stats, Except.isOk, Except.toBool], _, stats, ?_⟩
      exact ⟨by simp [CaptureRun.fail], .inl ⟨rfl, by simp [CaptureRun.fail]⟩⟩
  | sent clock drained stats stores closed =>
      refine .inr ⟨by simp [clock, drained, stats, Except.isOk, Except.toBool], _, stats, ?_⟩
      constructor
      · intro running
        rw [closed.going_on running]
        exact stores.priorStats.1
      · have longer := closed.longer
        rw [stores.priorStats.2] at longer
        refine .inr ⟨longer, run.parseErrors, ?_⟩
        intro field empty
        rw [closed.diagnosed empty, stores.diagnosed]
        rfl

theorem step_sampled (run : CaptureRun) (external : External) (config : CaptureConfig)
    (linkType : Int32) (tick : Tick) :
    (run.samples config linkType tick = false ∧
      Unsampled run (run.step external config linkType tick)) ∨
    run.samples config linkType tick = true ∧ run.result = none ∧ ∃ stat,
      tick.stats = .ok stat ∧ Sampled stat run (run.step external config linkType tick) := by
  unfold samples CaptureRun.step
  cases running : run.result with
  | some value => exact .inl ⟨rfl, rfl, rfl⟩
  | none =>
      obtain ⟨enqueued, prior⟩ := (receive_received run config linkType tick.next).unsampled
      dsimp only
      cases received : (run.receive config linkType tick.next).result with
      | some value => exact .inl ⟨rfl, enqueued, prior⟩
      | none =>
          rcases (drain_drained (run.receive config linkType tick.next) external config
            tick).sampled with ⟨silent, same⟩ | ⟨sampled, stat, stats, after⟩
          · exact .inl ⟨silent, same.enqueued.trans enqueued, same.prior.trans prior⟩
          · obtain ⟨after, batches⟩ := after
            simp only [diagnosed, enqueued, prior] at batches
            exact .inr ⟨sampled, rfl, stat, stats, after, batches⟩

end CaptureRun

/-! One of the three counters. -/

theorem saturatingSub_toNat (first second : UInt64) :
    (saturatingSub first second).toNat = first.toNat - second.toNat := by
  unfold saturatingSub
  split
  · rename_i fits
    exact UInt64.toNat_sub_of_le _ _ fits
  · rename_i exceeds
    rw [UInt64.le_iff_toNat_le] at exceeds
    rw [UInt64.toNat_zero]
    omega

/-- A counter: where it stands in the true counts, in the diagnostics and in `prior_stats`. -/
structure LossCounter where
  count : TrueCounts → Nat
  field : CaptureDiagnostics → UInt64
  widened : UInt64 × UInt64 × UInt64 → UInt64
  initial : count {} = 0 ∧ widened (0, 0, 0) = 0
  empty : field {} = 0
  sampled : ∀ counts, (widened (CaptureRun.totals counts.sample)).toNat = count counts % 2 ^ 32
  since : ∀ prior current parseErrors,
    field (CaptureRun.diagnosticsSince prior current parseErrors) =
      saturatingSub (widened current) (widened prior)
  monotone : ∀ earlier later, earlier.NotAfter later → count earlier ≤ count later

theorem widened_toNat (count : Nat) : (UInt32.ofNat count).toUInt64.toNat = count % 2 ^ 32 := by
  rw [UInt32.toNat_toUInt64, UInt32.toNat_ofNat']

def receivedCounter : LossCounter where
  count := (·.received)
  field := (·.received)
  widened := (·.1)
  initial := ⟨rfl, rfl⟩
  empty := rfl
  sampled counts := widened_toNat counts.received
  since _ _ _ := rfl
  monotone _ _ notAfter := notAfter.received

def droppedCounter : LossCounter where
  count := (·.dropped)
  field := (·.dropped)
  widened := (·.2.1)
  initial := ⟨rfl, rfl⟩
  empty := rfl
  sampled counts := widened_toNat counts.dropped
  since _ _ _ := rfl
  monotone _ _ notAfter := notAfter.dropped

def ifDroppedCounter : LossCounter where
  count := (·.ifDropped)
  field := (·.interfaceDropped)
  widened := (·.2.2)
  initial := ⟨rfl, rfl⟩
  empty := rfl
  sampled counts := widened_toNat counts.ifDropped
  since _ _ _ := rfl
  monotone _ _ notAfter := notAfter.ifDropped

theorem sample_difference {total before after : Nat} (notAfter : before ≤ after)
    (bounded : total ≤ before) (exactly : total = before ↔ before < 2 ^ 32) :
    total + (after % 2 ^ 32 - before % 2 ^ 32) ≤ after ∧
      (total + (after % 2 ^ 32 - before % 2 ^ 32) = after ↔ after < 2 ^ 32) := by
  omega

/-- The batches carry at most the counts of the last sample sent, and exactly those while the
counter has not wrapped around. -/
structure CountedRun.Carried (counter : LossCounter) (counted : CountedRun) : Prop where
  running : counted.run.result = none →
    (counter.widened counted.run.priorStats).toNat = counter.count counted.last % 2 ^ 32 ∧
      counted.sent = counted.last
  bounded : counted.run.diagnosed counter.field ≤ counter.count counted.sent
  exactly : counted.run.diagnosed counter.field = counter.count counted.sent ↔
    counter.count counted.sent < 2 ^ 32
  ordered : counter.count counted.sent ≤ counter.count counted.last

section Invariant

variable {external : External} {config : CaptureConfig} {linkType : Int32} {counter : LossCounter}
  {counted : CountedRun} {round : CountedTick}

theorem CountedRun.Carried.step (carried : counted.Carried counter) (faithful : round.Faithful)
    (later : counter.count counted.last ≤ counter.count round.counts) :
    (counted.step external config linkType round).Carried counter := by
  rcases counted.run.step_sampled external config linkType round.tick with
    ⟨silent, same⟩ | ⟨sampled, running, stat, stats, after⟩
  · have diagnosed : (counted.run.step external config linkType round.tick).diagnosed
        counter.field = counted.run.diagnosed counter.field := by
      rw [CaptureRun.diagnosed, same.enqueued, CaptureRun.diagnosed]
    refine ⟨?_, ?_, ?_, ?_⟩
    · intro running
      have before : counted.run.result = none := by
        cases result : counted.run.result with
        | none => rfl
        | some value => simp [CountedRun.step, CaptureRun.step, result] at running
      simpa [CountedRun.step, silent, same.prior] using carried.running before
    · simpa [CountedRun.step, silent, diagnosed] using carried.bounded
    · simpa [CountedRun.step, silent, diagnosed] using carried.exactly
    · simpa [CountedRun.step, silent] using carried.ordered
  · obtain ⟨prior, same⟩ := carried.running running
    have sample := faithful stat stats
    rcases after.batches with ⟨unchanged, returned⟩ | ⟨added, parseErrors, reported⟩
    · have diagnosed : (counted.run.step external config linkType round.tick).diagnosed
          counter.field = counted.run.diagnosed counter.field := by
        rw [CaptureRun.diagnosed, unchanged, CaptureRun.diagnosed]
      refine ⟨fun running => absurd running returned, ?_, ?_, ?_⟩
      · simpa [CountedRun.step, sampled, unchanged, diagnosed] using carried.bounded
      · simpa [CountedRun.step, sampled, unchanged, diagnosed] using carried.exactly
      · have ordered : counter.count counted.sent ≤ counter.count round.counts :=
          carried.ordered.trans later
        simpa [CountedRun.step, sampled, unchanged] using ordered
    · have diagnosed : (counted.run.step external config linkType round.tick).diagnosed
          counter.field = counted.run.diagnosed counter.field +
            (counter.count round.counts % 2 ^ 32 - counter.count counted.sent % 2 ^ 32) := by
        rw [reported counter.field counter.empty, counter.since, saturatingSub_toNat, sample,
          counter.sampled, prior, same]
      obtain ⟨bounded, exactly⟩ := sample_difference (carried.ordered.trans later)
        carried.bounded carried.exactly
      refine ⟨?_, ?_, ?_, ?_⟩
      · intro running
        have priorStats := after.prior running
        simp only [CountedRun.step] at priorStats ⊢
        simp [sampled, added, priorStats, sample, counter.sampled]
      · simpa [CountedRun.step, sampled, added, diagnosed] using bounded
      · simpa [CountedRun.step, sampled, added, diagnosed] using exactly
      · simp [CountedRun.step, sampled, added]

end Invariant

namespace CountedRun

def ofRounds (external : External) (config : CaptureConfig) (linkType : Int32) (started : CaptureRun)
    (rounds : List CountedTick) : CountedRun :=
  Runs.run (CountedRun.step external config linkType) { run := started } rounds

variable {external : External} {config : CaptureConfig} {linkType : Int32} {started : CaptureRun}
  {rounds : List CountedTick}

theorem ofRounds_run : (ofRounds external config linkType started rounds).run =
    Runs.run (CaptureRun.step external config linkType) started (rounds.map (·.tick)) := by
  induction rounds using List.reverseRecOn with
  | nil => rfl
  | append_singleton rounds round ih =>
      rw [ofRounds, run_snoc, List.map_append, List.map_cons, List.map_nil, run_snoc, ← ih]
      rfl

theorem last_of_rounds (external : External) (config : CaptureConfig) (linkType : Int32)
    (started : CaptureRun) (rounds : List CountedTick) :
     (ofRounds external config linkType started rounds).last = {} ∨
    ∃ round ∈ rounds, (ofRounds external config linkType started rounds).last = round.counts := by
  induction rounds using List.reverseRecOn with
  | nil => exact .inl rfl
  | append_singleton rounds round ih =>
      rw [ofRounds, run_snoc]
      simp only [CountedRun.step]
      split
      · exact .inr ⟨round, by simp, rfl⟩
      · rcases ih with none | ⟨earlier, member, same⟩
        · exact .inl none
        · exact .inr ⟨earlier, by simp [member], same⟩

theorem rounds_carried (counter : LossCounter) (prior : started.priorStats = (0, 0, 0))
    (nothing : started.enqueued = []) (faithful : ∀ round ∈ rounds, round.Faithful)
    (cumulative : rounds.Pairwise fun earlier later => earlier.counts.NotAfter later.counts) :
    (ofRounds external config linkType started rounds).Carried counter := by
  induction rounds using List.reverseRecOn with
  | nil =>
      obtain ⟨count, widened⟩ := counter.initial
      have diagnosed : started.diagnosed counter.field = 0 := by
        simp [CaptureRun.diagnosed, nothing]
      refine ⟨fun _ => ⟨?_, rfl⟩, ?_, ?_, le_refl _⟩
      · simp [ofRounds, prior, count, widened]
      · simp [ofRounds, diagnosed]
      · simp [ofRounds, diagnosed, count]
  | append_singleton rounds round ih =>
      obtain ⟨earlier, _, before⟩ := List.pairwise_append.mp cumulative
      have carried := ih (fun other member => faithful other (by simp [member])) earlier
      rw [ofRounds, run_snoc]
      apply carried.step (faithful round (by simp))
      rcases last_of_rounds external config linkType started rounds with none | ⟨other, member, same⟩
      · rw [none, counter.initial.1]
        exact Nat.zero_le _
      · rw [same]
        exact counter.monotone _ _ (before other member round (by simp))

theorem Carried.iff {counter : LossCounter} {counted : CountedRun}
    (carried : counted.Carried counter) :
    counted.run.diagnosed counter.field = counter.count counted.last ↔
      counter.count counted.last < 2 ^ 32 ∧
        counter.count counted.sent = counter.count counted.last := by
  obtain ⟨_, bounded, exactly, ordered⟩ := carried
  omega

end CountedRun

/-- Over any run whose samples are the true counts modulo 2 ^ 32, the batches add up to the counts
at the last sample exactly when those are below 2 ^ 32 and its batch, if it brings anything new,
was enqueued. -/
theorem loss_diagnostics_add_up_iff (external : External) (config : CaptureConfig)
    (opening : Except CaptureError Int32) (openFaults : SpoolFaults) (tables : SpoolTables)
    (linkType : Int32) (started : CaptureRun) (rounds : List CountedTick)
    (start : config.start opening openFaults tables = .ok (linkType, started))
    (faithful : ∀ round ∈ rounds, round.Faithful)
    (cumulative : rounds.Pairwise fun earlier later => earlier.counts.NotAfter later.counts) :
    let counted := CountedRun.ofRounds external config linkType started rounds
    capture external config opening openFaults (rounds.map (·.tick)) tables = .ok counted.run ∧
    (counted.run.diagnosed (·.received) = counted.last.received ↔
      counted.last.received < 2 ^ 32 ∧ counted.sent.received = counted.last.received) ∧
    (counted.run.diagnosed (·.dropped) = counted.last.dropped ↔
      counted.last.dropped < 2 ^ 32 ∧ counted.sent.dropped = counted.last.dropped) ∧
    (counted.run.diagnosed (·.interfaceDropped) = counted.last.ifDropped ↔
      counted.last.ifDropped < 2 ^ 32 ∧ counted.sent.ifDropped = counted.last.ifDropped) := by
  intro counted
  obtain ⟨_, _, _, aggregator, _, _, initial⟩ := CaptureRun.start_ok start
  have prior : started.priorStats = (0, 0, 0) := by rw [initial]
  have nothing : started.enqueued = [] := by rw [initial]
  have carried : ∀ counter, counted.Carried counter := fun counter =>
    CountedRun.rounds_carried counter prior nothing faithful cumulative
  refine ⟨?_, (carried receivedCounter).iff, (carried droppedCounter).iff,
    (carried ifDroppedCounter).iff⟩
  rw [capture, start, CountedRun.ofRounds_run]
  rfl

/-! Two rounds with a packet each. Between their samples the counter of received packets passes
2 ^ 32. -/

def busyConfig : CaptureConfig := { pingConfig with maxBatches := some 2 }

def busyRound (tvSec : Int64) (now : UInt64) (received : Nat) : CountedTick where
  tick := {
    next := .ok { data := ping, tvSec, len := 60 }
    clock := some now
    stats := .ok { received := UInt32.ofNat received, dropped := 0, ifDropped := 0 }
  }
  counts := { received }

def busyRounds : List CountedTick := [busyRound 11 25 4294967290, busyRound 26 35 4294967301]

def busyExternal : External := External.ofTable [
    (((pingBatch 25 10 { received := 4294967290 }).envelope (External.ofTable [] [])
        0).body.toJson.render,
      ⟨#[70, 118, 67, 227, 178, 11, 230, 112, 14, 32, 17, 245, 115, 204, 208, 119, 210,
      140, 6, 180, 34, 205, 127, 227, 201, 24, 126, 126, 15, 86, 218, 231], rfl⟩),
    (((pingBatch 35 20 {}).envelope (External.ofTable [] []) 1).body.toJson.render,
      ⟨#[148, 153, 47, 70, 65, 240, 137, 142, 173, 106, 235, 168, 141, 70, 119, 121, 34,
      148, 153, 110, 242, 125, 74, 57, 254, 168, 181, 94, 205, 13, 232, 48], rfl⟩)] []

theorem busy_start : busyConfig.start (.ok LINKTYPE_RAW) noFaults {} =
    .ok (LINKTYPE_RAW, pingStart) := rfl

theorem busyRounds_faithful : ∀ round ∈ busyRounds, round.Faithful := by
  intro round member
  rcases List.mem_pair.mp member with rfl | rfl
  · exact fun stat same => (Except.ok.inj same).symm
  · exact fun stat same => (Except.ok.inj same).symm

theorem busyRounds_cumulative :
    busyRounds.Pairwise fun earlier later => earlier.counts.NotAfter later.counts := by
  simp only [busyRounds, List.pairwise_cons, List.mem_singleton, forall_eq, List.not_mem_nil,
    false_implies, implies_true, List.Pairwise.nil, and_true]
  exact ⟨by decide, le_refl _, le_refl _⟩

/-- Eleven packets after the first sample, and the second batch reports none. -/
theorem wrapped_counter_undercounts :
    let counted := CountedRun.ofRounds busyExternal busyConfig LINKTYPE_RAW pingStart busyRounds
    (∀ round ∈ busyRounds, round.Faithful) ∧
      (busyRounds.Pairwise fun earlier later => earlier.counts.NotAfter later.counts) ∧
      capture busyExternal busyConfig (.ok LINKTYPE_RAW) noFaults (busyRounds.map (·.tick)) {} =
        .ok counted.run ∧
      counted.run.enqueued.map (·.body.diagnostics.received) = [4294967290, 0] ∧
      counted.last.received = 4294967301 ∧
      ¬counted.run.diagnosed (·.received) = counted.last.received := by
  refine ⟨busyRounds_faithful, busyRounds_cumulative, rfl, ?_⟩
  decide +kernel

theorem loss_diagnostics_add_up_iff_first :
    let counted := CountedRun.ofRounds busyExternal busyConfig LINKTYPE_RAW pingStart
      [busyRound 11 25 4294967290]
    counted.run.diagnosed (·.received) = 4294967290 := by
  intro counted
  have faithful : ∀ round ∈ [busyRound 11 25 4294967290], round.Faithful := fun round member =>
    busyRounds_faithful round (List.mem_cons.mpr (.inl (List.mem_singleton.mp member)))
  have last : counted.last.received = 4294967290 := by decide +kernel
  obtain ⟨_, received, _⟩ := loss_diagnostics_add_up_iff busyExternal busyConfig (.ok LINKTYPE_RAW)
    noFaults {} LINKTYPE_RAW pingStart [busyRound 11 25 4294967290] busy_start faithful
    (List.pairwise_singleton _ _)
  refine (received.mpr ?_).trans last
  decide +kernel

end FlowObservability
