import FlowObservability.Capture

/-!
What a round of the capture loop can do, said once for all of its invariants.
-/

namespace FlowObservability

open Runs Transaction

namespace CaptureRun

variable {external : External} {config : CaptureConfig} {run next : CaptureRun}
  {linkType : Int32} {tick : Tick}

inductive Stores (external : External) (config : CaptureConfig) (buckets : List FlowBucket)
    (diagnostics : CaptureDiagnostics) (run : CaptureRun) : CaptureRun → Prop
  | batch {faults : SpoolFaults} {createdAt : UInt64} {value : EnqueueResult} {spool : SpoolTables}
      (stored : Spool.enqueue external faults config.limits
        (enqueueArgs config createdAt buckets diagnostics) run.spool = (.ok value, spool)) :
      Stores external config buckets diagnostics run { run with
        spool
        enqueued := run.enqueued ++
          [run.spool.nextEnvelope external (enqueueArgs config createdAt buckets diagnostics)] }

theorem enqueue_stores {faults : SpoolFaults} {createdAt : UInt64} {buckets : List FlowBucket}
    {diagnostics : CaptureDiagnostics}
    (enqueued : run.enqueue external config faults
      (enqueueArgs config createdAt buckets diagnostics) = (.ok (), next)) :
    Stores external config buckets diagnostics run next := by
  unfold CaptureRun.enqueue at enqueued
  split at enqueued
  · rename_i stored
    obtain ⟨_, rfl⟩ := Prod.mk.inj enqueued
    exact .batch stored
  · cases (Prod.mk.inj enqueued).1

theorem enqueue_refused {faults : SpoolFaults} {args : EnqueueArgs} {error : AnyhowError}
    (failed : run.enqueue external config faults args = (.error error, next)) : next = run := by
  unfold CaptureRun.enqueue at failed
  split at failed
  · cases (Prod.mk.inj failed).1
  · rename_i refused
    obtain ⟨_, rfl⟩ := Prod.mk.inj failed
    rw [transact_error refused]

def diagnosed (field : CaptureDiagnostics → UInt64) (run : CaptureRun) : Nat :=
  (run.enqueued.map fun envelope => (field envelope.body.diagnostics).toNat).sum

theorem Stores.diagnosed {buckets : List FlowBucket} {diagnostics : CaptureDiagnostics}
    (stores : Stores external config buckets diagnostics run next)
    (field : CaptureDiagnostics → UInt64) :
    next.diagnosed field = run.diagnosed field + (field diagnostics).toNat := by
  cases stores with
  | batch stored =>
      simp only [CaptureRun.diagnosed, List.map_append, List.map_cons, List.map_nil,
        List.sum_append, List.sum_singleton]
      rfl

inductive Received (config : CaptureConfig) (run : CaptureRun) : CaptureRun → Prop
  | accepted (packet : PacketMeta) (here : packet.key.capturePoint = config.capturePoint) :
      Received config run { run with
        aggregator := run.aggregator.push packet
        accepted := run.accepted ++ [packet] }
  | rejected :
      Received config run { run with
        parseErrors := run.parseErrors + 1
        rejected := run.rejected + 1 }
  | nothing : Received config run run
  | failed (error : CaptureError) : Received config run (run.fail error)

theorem receive_received (run : CaptureRun) (config : CaptureConfig) (linkType : Int32)
    (packet : Except PcapError CapturedPacket) :
    Received config run (run.receive config linkType packet) := by
  unfold receive
  split
  · split
    · rename_i parsed
      exact .accepted _ (parsePacket_accepted parsed).2.2
    · exact .nothing
    · exact .rejected
    · exact .failed _
  · exact .nothing
  · exact .failed _

/-- The rest of a round whose batch is stored: the loop goes on, or `run` returns after a batch of
what the aggregator still holds. -/
inductive Closed (external : External) (config : CaptureConfig) (run : CaptureRun) :
    CaptureRun → Prop
  | failed (error : AnyhowError) : Closed external config run (run.fail (.anyhow error))
  | more : Closed external config run { run with emitted := run.emitted + 1 }
  | nothing (empty : run.aggregator.drainAll.1 = []) :
      Closed external config run { run with
        emitted := run.emitted + 1
        aggregator := run.aggregator.drainAll.2
        result := some (.ok ()) }
  | unsent (error : AnyhowError) :
      Closed external config run ({ run with
        emitted := run.emitted + 1
        aggregator := run.aggregator.drainAll.2 }.fail (.anyhow error))
  | last {sent : CaptureRun}
      (stores : Stores external config run.aggregator.drainAll.1 {} { run with
        emitted := run.emitted + 1
        aggregator := run.aggregator.drainAll.2 } sent) :
      Closed external config run { sent with result := some (.ok ()) }

theorem finish_closed (run : CaptureRun) (external : External) (config : CaptureConfig)
    (tick : Tick) :
    Closed external config run
      ({ run with emitted := run.emitted + 1 }.finish external config tick) := by
  unfold CaptureRun.finish
  dsimp only
  split
  · rename_i empty
    exact .nothing empty
  · split
    · exact .unsent _
    · split
      · rename_i failed
        rw [enqueue_refused failed]
        exact .unsent _
      · rename_i enqueued
        exact .last (enqueue_stores enqueued)

theorem Closed.diagnosed (closed : Closed external config run next)
    {field : CaptureDiagnostics → UInt64} (empty : field {} = 0) :
    next.diagnosed field = run.diagnosed field := by
  cases closed with
  | failed => rfl
  | more => rfl
  | nothing => rfl
  | unsent => rfl
  | last stores =>
      have added := stores.diagnosed field
      rw [empty, UInt64.toNat_zero, Nat.add_zero] at added
      exact added

theorem Closed.going_on (closed : Closed external config run next) (running : next.result = none) :
    next = { run with emitted := run.emitted + 1 } := by
  cases closed with
  | failed => cases running
  | more => rfl
  | nothing => cases running
  | unsent => cases running
  | last => cases running

inductive Drained (external : External) (config : CaptureConfig) (tick : Tick) (run : CaptureRun) :
    CaptureRun → Prop
  | stopped {error : AnyhowError} (clock : unixSeconds tick.clock = .error error) :
      Drained external config tick run (run.fail (.anyhow error))
  | quiet {now : UInt64} (clock : unixSeconds tick.clock = .ok now)
      (empty : (run.aggregator.drainBefore (bucketOf config.bucketSeconds now)).1 = []) :
      Drained external config tick run { run with
        aggregator := (run.aggregator.drainBefore (bucketOf config.bucketSeconds now)).2 }
  | unsampled {now : UInt64} {error : PcapError} (clock : unixSeconds tick.clock = .ok now)
      (drained : (run.aggregator.drainBefore (bucketOf config.bucketSeconds now)).1 ≠ [])
      (stats : tick.stats = .error error) :
      Drained external config tick run ({ run with
        aggregator := (run.aggregator.drainBefore (bucketOf config.bucketSeconds now)).2 }.fail
          (.pcap error))
  | unsent {now : UInt64} {stat : PcapStat} (clock : unixSeconds tick.clock = .ok now)
      (drained : (run.aggregator.drainBefore (bucketOf config.bucketSeconds now)).1 ≠ [])
      (stats : tick.stats = .ok stat) (error : AnyhowError) :
      Drained external config tick run ({ run with
        aggregator := (run.aggregator.drainBefore (bucketOf config.bucketSeconds now)).2
        priorStats := totals stat
        parseErrors := 0 }.fail (.anyhow error))
  | sent {now : UInt64} {stat : PcapStat} {sent next : CaptureRun}
      (clock : unixSeconds tick.clock = .ok now)
      (drained : (run.aggregator.drainBefore (bucketOf config.bucketSeconds now)).1 ≠ [])
      (stats : tick.stats = .ok stat)
      (stores : Stores external config
        (run.aggregator.drainBefore (bucketOf config.bucketSeconds now)).1
        (diagnosticsSince run.priorStats (totals stat) run.parseErrors) { run with
          aggregator := (run.aggregator.drainBefore (bucketOf config.bucketSeconds now)).2
          priorStats := totals stat
          parseErrors := 0 } sent)
      (closed : Closed external config sent next) : Drained external config tick run next

theorem drain_drained (run : CaptureRun) (external : External) (config : CaptureConfig)
    (tick : Tick) : Drained external config tick run (run.drain external config tick) := by
  unfold CaptureRun.drain
  split
  · rename_i clock
    exact .stopped clock
  · rename_i now clock
    dsimp only
    split
    · rename_i empty
      exact .quiet clock empty
    · rename_i drained
      unfold CaptureRun.emit
      split
      · rename_i stats
        exact .unsampled clock drained stats
      · rename_i stat stats
        dsimp only
        split
        · rename_i failed
          rw [enqueue_refused failed]
          exact .unsent clock drained stats _
        · rename_i sent enqueued
          refine .sent clock drained stats (enqueue_stores enqueued) ?_
          split
          · exact .failed _
          · split
            · exact finish_closed sent external config tick
            · exact .more

theorem step_keeps {holds : CaptureRun → Prop} (before : holds run)
    (received : ∀ next, run.result = none → Received config run next → holds next)
    (drained : ∀ now next, now.result = none → holds now → Drained external config tick now next →
      holds next) (linkType : Int32) : holds (run.step external config linkType tick) := by
  unfold CaptureRun.step
  split
  · exact before
  · rename_i running
    have after := received _ running (receive_received run config linkType tick.next)
    dsimp only
    split
    · exact after
    · rename_i still
      exact drained _ _ still after (drain_drained _ external config tick)

theorem start_ok {opening : Except CaptureError Int32} {openFaults : SpoolFaults}
    {tables : SpoolTables}
    (started : config.start opening openFaults tables = .ok (linkType, run)) :
    config.localIps ≠ [] ∧ opening = .ok linkType ∧ ∃ spool aggregator,
      Spool.open openFaults config.limits tables = (.ok spool, run.spool) ∧
      Aggregator.new config.bucketSeconds = some aggregator ∧
      run = { aggregator, spool := run.spool } := by
  unfold CaptureConfig.start at started
  split at started
  · cases started
  · rename_i nonempty
    split at started
    · cases started
    · split at started
      · cases started
      · rename_i spool tables opened
        split at started
        · cases started
        · rename_i aggregator created
          cases started
          exact ⟨nonempty, rfl, spool, aggregator, opened, created, rfl⟩

end CaptureRun

/-! A capture of one kind of packet, for the runs that follow. -/

def pingConfig : CaptureConfig where
  localIps := [.v4 10 0 0 2]
  nodeId := "n"
  bootId := "b"
  capturePoint := "p"
  bucketSeconds := 10
  limits := { maxPayloadBytes := 10000, maxAgeSeconds := 1000 }
  maxBatches := some 1

def ping : Frame := [0x45, 0, 0, 20, 0, 0, 0, 0, 64, 1, 0, 0, 10, 0, 0, 2, 1, 1, 1, 1]

def pingBatch (createdAt bucketStart : UInt64) (diagnostics : CaptureDiagnostics) :
    EnqueueArgs where
  nodeId := "n"
  bootId := "b"
  createdAt
  buckets := [{
    bucketStart
    key := {
      capturePoint := "p"
      direction := .egress
      protocol := .icmp
      sourceIp := .v4 10 0 0 2
      destinationIp := .v4 1 1 1 1
      sourcePort := none
      destinationPort := none
    }
    packets := 1
    bytes := 60
  }]
  diagnostics

theorem pingConfig_positive : 0 < pingConfig.bucketSeconds := by decide

def pingStart : CaptureRun where
  aggregator := { bucketSeconds := 10, positive := pingConfig_positive, flows := ∅ }
  spool := { nextSeq := some 0 }

end FlowObservability
