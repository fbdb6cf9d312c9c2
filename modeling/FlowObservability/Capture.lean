import FlowObservability.Aggregate
import FlowObservability.Control
import FlowObservability.Library.Runs
import FlowObservability.SpoolHistory

/-!
The capture loop: a packet, the clock, the counters of pcap and the spool in each round, with a
record of the packets the parser accepted, the frames it rejected and the envelopes enqueued.
-/

namespace FlowObservability

open Runs Words

structure CaptureConfig where
  localIps : List IpAddr
  nodeId : String
  bootId : String
  capturePoint : String
  bucketSeconds : UInt64
  limits : SpoolLimits
  maxBatches : Option UInt64
  deriving DecidableEq, Repr

inductive PcapError where
  | timeoutExpired
  | other (text : String)
  deriving DecidableEq, Repr

structure CapturedPacket where
  data : Frame
  tvSec : Int64
  len : UInt32
  deriving DecidableEq

structure PcapStat where
  received : UInt32
  dropped : UInt32
  ifDropped : UInt32
  deriving DecidableEq, Repr

inductive CaptureError where
  | pcap (error : PcapError)
  | anyhow (error : AnyhowError)
  | panic
  deriving DecidableEq, Repr

/-- What one round of the loop meets: pcap, the clock and the database engine, and the clock and
the engine once more where the round is the last one. -/
structure Tick where
  next : Except PcapError CapturedPacket
  clock : Option UInt64
  stats : Except PcapError PcapStat := .ok ⟨0, 0, 0⟩
  enqueueFaults : SpoolFaults := noFaults
  statusFaults : SpoolFaults := noFaults
  lastClock : Option UInt64 := none
  lastFaults : SpoolFaults := noFaults

/-- The variables of the loop with the spool database, the result once `run` has returned, and
what has happened so far. -/
structure CaptureRun where
  aggregator : Aggregator
  parseErrors : UInt64 := 0
  priorStats : UInt64 × UInt64 × UInt64 := (0, 0, 0)
  emitted : UInt64 := 0
  spool : SpoolTables
  result : Option (Except CaptureError Unit) := none
  accepted : List PacketMeta := []
  rejected : Nat := 0
  enqueued : List BatchEnvelope := []

namespace CaptureRun

def fail (error : CaptureError) (run : CaptureRun) : CaptureRun :=
  { run with result := some (.error error) }

def receive (config : CaptureConfig) (linkType : Int32) (next : Except PcapError CapturedPacket)
    (run : CaptureRun) : CaptureRun :=
  match next with
  | .ok packet =>
    match parsePacket packet.data linkType packet.tvSec.toUInt64 packet.len.toUInt64
        config.capturePoint config.localIps with
    | .ok (some packet) => { run with
        aggregator := run.aggregator.push packet
        accepted := run.accepted ++ [packet] }
    | .ok none => run
    | .error (.error _) => { run with
        parseErrors := run.parseErrors + 1
        rejected := run.rejected + 1 }
    | .error .panic => run.fail .panic
  | .error .timeoutExpired => run
  | .error error => run.fail (.pcap error)

def enqueueArgs (config : CaptureConfig) (createdAt : UInt64) (buckets : List FlowBucket)
    (diagnostics : CaptureDiagnostics) : EnqueueArgs where
  nodeId := config.nodeId
  bootId := config.bootId
  createdAt
  buckets
  diagnostics

def enqueue (external : External) (config : CaptureConfig) (faults : SpoolFaults)
    (args : EnqueueArgs) (run : CaptureRun) : Except AnyhowError Unit × CaptureRun :=
  match Spool.enqueue external faults config.limits args run.spool with
  | (.ok _, spool) => (.ok (), { run with
      spool
      enqueued := run.enqueued ++ [run.spool.nextEnvelope external args] })
  | (.error error, spool) => (.error error, { run with spool })

def finish (external : External) (config : CaptureConfig) (tick : Tick) (run : CaptureRun) :
    CaptureRun :=
  let (remaining, aggregator) := run.aggregator.drainAll
  let run := { run with aggregator }
  if remaining = [] then { run with result := some (.ok ()) }
  else
    match unixSeconds tick.lastClock with
    | .error error => run.fail (.anyhow error)
    | .ok now =>
      match run.enqueue external config tick.lastFaults (enqueueArgs config now remaining {}) with
      | (.error error, run) => run.fail (.anyhow error)
      | (.ok (), run) => { run with result := some (.ok ()) }

def totals (stat : PcapStat) : UInt64 × UInt64 × UInt64 :=
  (stat.received.toUInt64, stat.dropped.toUInt64, stat.ifDropped.toUInt64)

def diagnosticsSince (prior current : UInt64 × UInt64 × UInt64) (parseErrors : UInt64) :
    CaptureDiagnostics where
  received := saturatingSub current.1 prior.1
  dropped := saturatingSub current.2.1 prior.2.1
  interfaceDropped := saturatingSub current.2.2 prior.2.2
  parseErrors

def emit (external : External) (config : CaptureConfig) (tick : Tick) (now : UInt64)
    (buckets : List FlowBucket) (run : CaptureRun) : CaptureRun :=
  match tick.stats with
  | .error error => run.fail (.pcap error)
  | .ok stat =>
    let diagnostics := diagnosticsSince run.priorStats (totals stat) run.parseErrors
    let run := { run with priorStats := totals stat, parseErrors := 0 }
    match run.enqueue external config tick.enqueueFaults
        (enqueueArgs config now buckets diagnostics) with
    | (.error error, run) => run.fail (.anyhow error)
    | (.ok (), run) =>
      match Spool.status tick.statusFaults run.spool with
      | .error error => run.fail (.anyhow error)
      | .ok _ =>
        let run := { run with emitted := run.emitted + 1 }
        if config.maxBatches.any fun maximum => maximum ≤ run.emitted then
          run.finish external config tick
        else run

def drain (external : External) (config : CaptureConfig) (tick : Tick) (run : CaptureRun) :
    CaptureRun :=
  match unixSeconds tick.clock with
  | .error error => run.fail (.anyhow error)
  | .ok now =>
    let (buckets, aggregator) := run.aggregator.drainBefore (bucketOf config.bucketSeconds now)
    let run := { run with aggregator }
    if buckets = [] then run else run.emit external config tick now buckets

/-- A round of the loop. Once `run` has returned there are no more. -/
def step (external : External) (config : CaptureConfig) (linkType : Int32) (run : CaptureRun)
    (tick : Tick) : CaptureRun :=
  match run.result with
  | some _ => run
  | none =>
    let run := run.receive config linkType tick.next
    match run.result with
    | some _ => run
    | none => run.drain external config tick

end CaptureRun

/-- `run` up to the loop. `opening` is how opening the interface ends: with its link type or an
error. -/
def CaptureConfig.start (config : CaptureConfig) (opening : Except CaptureError Int32)
    (openFaults : SpoolFaults) (tables : SpoolTables) : Except CaptureError (Int32 × CaptureRun) :=
  if config.localIps = [] then
    .error (.anyhow (.message "at least one --local-ip is required to classify direction"))
  else
    match opening with
    | .error error => .error error
    | .ok linkType =>
      match Spool.open openFaults config.limits tables with
      | (.error error, _) => .error (.anyhow error)
      | (.ok _, spool) =>
        match Aggregator.new config.bucketSeconds with
        | none => .error .panic
        | some aggregator => .ok (linkType, { aggregator, spool })

def capture (external : External) (config : CaptureConfig) (opening : Except CaptureError Int32)
    (openFaults : SpoolFaults) (ticks : List Tick) (tables : SpoolTables) :
    Except CaptureError CaptureRun := do
  let (linkType, started) ← config.start opening openFaults tables
  return Runs.run (CaptureRun.step external config linkType) started ticks

end FlowObservability
