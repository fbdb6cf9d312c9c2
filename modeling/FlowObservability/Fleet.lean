import FlowObservability.CaptureRounds
import FlowObservability.DeliveryDrained

/-!
The commands of the agent as processes over the delivery protocol: captures and synthetic runs that
share the spool of their agent, round by round and in any order, with the upload passes.
-/

namespace FlowObservability

open Runs

/-! `synthetic` of the command line. -/

def syntheticCapturePoint : String := "synthetic:fixture"

def syntheticBucket (now index : UInt64) : FlowBucket where
  bucketStart := now + index * 10
  key := {
    capturePoint := syntheticCapturePoint
    direction := .egress
    protocol := .tcp
    sourceIp := .v4 10 0 0 2
    destinationIp := .v4 1 1 1 1
    sourcePort := some (40000 + index.toUInt16)
    destinationPort := some 443
  }
  packets := 10 + index
  bytes := 1000 + index * 100

def syntheticArgs (node : String) (now index : UInt64) : EnqueueArgs where
  nodeId := node
  bootId := "synthetic-boot"
  createdAt := now + index * 10
  buckets := [syntheticBucket now index]
  diagnostics := {}

/-- The variables of `synthetic` with the spool database, what it prints or fails with once it has
ended, and the envelopes it has enqueued. -/
structure SyntheticRun where
  node : String
  batches : UInt64
  limits : SpoolLimits
  now : UInt64
  index : UInt64 := 0
  spool : SpoolTables
  result : Option (Except AnyhowError SpoolStatus) := none
  enqueued : List BatchEnvelope := []

def SyntheticRun.step (external : External) (run : SyntheticRun) (faults : SpoolFaults) :
    SyntheticRun :=
  match run.result with
  | some _ => run
  | none =>
    if run.index < run.batches then
      let args := syntheticArgs run.node run.now run.index
      match Spool.enqueue external faults run.limits args run.spool with
      | (.error error, spool) => { run with spool, result := some (.error error) }
      | (.ok _, spool) => { run with
          spool
          index := run.index + 1
          enqueued := run.enqueued ++ [run.spool.nextEnvelope external args] }
    else { run with result := some (Spool.status faults run.spool) }

def SyntheticRun.start (node : String) (batches : UInt64) (limits : SpoolLimits)
    (clock : Option UInt64) (spool : SpoolTables) : Except AnyhowError SyntheticRun := do
  let now ← unixSeconds clock
  return { node, batches, limits, now, spool }

/-! The commands that write to a spool. -/

inductive Program where
  | capture (config : CaptureConfig) (linkType : Int32) (run : CaptureRun)
  | synthetic (run : SyntheticRun)

namespace Program

def limits : Program → SpoolLimits
  | capture config _ _ => config.limits
  | synthetic run => run.limits

def spool : Program → SpoolTables
  | capture _ _ run => run.spool
  | synthetic run => run.spool

def enqueued : Program → List BatchEnvelope
  | capture _ _ run => run.enqueued
  | synthetic run => run.enqueued

def withSpool (spool : SpoolTables) : Program → Program
  | capture config linkType run => capture config linkType { run with spool }
  | synthetic run => synthetic { run with spool }

def step (external : External) (program : Program) (tick : Tick) : Program :=
  match program with
  | capture config linkType run => capture config linkType (run.step external config linkType tick)
  | synthetic run => synthetic (run.step external tick.enqueueFaults)

end Program

structure Process (Agent : Type) where
  agent : Agent
  program : Program
  killed : Bool := false

structure Fleet (Agent : Type) where
  system : System Agent := {}
  processes : List (Process Agent) := []

/-- `network` is any step of the protocol but an `enqueue`: the commands that upload from a spool or
only read it begin with its `openSpool`. -/
inductive FleetAction (Agent : Type) where
  | capture (agent : Agent) (config : CaptureConfig) (opening : Except CaptureError Int32)
      (faults : SpoolFaults)
  | synthetic (agent : Agent) (node : String) (batches : UInt64) (limits : SpoolLimits)
      (faults : SpoolFaults) (clock : Option UInt64)
  | round (process : Nat) (tick : Tick)
  | kill (process : Nat)
  | network (action : Action Agent)

def Action.enqueues {Agent : Type} : Action Agent → Bool
  | .enqueue _ _ _ => true
  | _ => false

def SpoolHistory.follow (history : SpoolHistory) (limits : SpoolLimits) (tables : SpoolTables)
    (envelopes : List BatchEnvelope) : SpoolHistory :=
  { history with
    tables
    limits := some limits
    enqueued := history.enqueued ++ envelopes
    evictedBatches := tables.gaps.length }

namespace Fleet

variable {Agent : Type} [DecidableEq Agent]

def tables (fleet : Fleet Agent) (agent : Agent) : SpoolTables :=
  (fleet.system.spools agent).tables

def openSpool (external : External) (fleet : Fleet Agent) (agent : Agent) (limits : SpoolLimits)
    (faults : SpoolFaults) : Fleet Agent :=
  { fleet with system := fleet.system.step external (.openSpool agent faults limits) }

def launch (fleet : Fleet Agent) (agent : Agent) (program : Program) : Fleet Agent :=
  { fleet with processes := fleet.processes ++ [{ agent, program }] }

def capture (external : External) (fleet : Fleet Agent) (agent : Agent) (config : CaptureConfig)
    (opening : Except CaptureError Int32) (faults : SpoolFaults) : Fleet Agent :=
  match config.localIps, opening with
  | [], _ => fleet
  | _ :: _, .error _ => fleet
  | _ :: _, .ok _ =>
    let opened := fleet.openSpool external agent config.limits faults
    match config.start opening faults (fleet.tables agent) with
    | .error _ => opened
    | .ok (linkType, run) => opened.launch agent (.capture config linkType run)

def synthetic (external : External) (fleet : Fleet Agent) (agent : Agent) (node : String)
    (batches : UInt64) (limits : SpoolLimits) (faults : SpoolFaults) (clock : Option UInt64) :
    Fleet Agent :=
  let opened := fleet.openSpool external agent limits faults
  match Spool.open faults limits (fleet.tables agent) with
  | (.error _, _) => opened
  | (.ok _, spool) =>
    match SyntheticRun.start node batches limits clock spool with
    | .error _ => opened
    | .ok run => opened.launch agent (.synthetic run)

def round (external : External) (fleet : Fleet Agent) (index : Nat) (tick : Tick) : Fleet Agent :=
  match fleet.processes[index]? with
  | none => fleet
  | some process =>
    if process.killed then fleet
    else
      let before := process.program.withSpool (fleet.tables process.agent)
      let after := before.step external tick
      { system := fleet.system.setSpool process.agent
          ((fleet.system.spools process.agent).follow after.limits after.spool
            (after.enqueued.drop before.enqueued.length))
        processes := fleet.processes.set index { process with program := after } }

def kill (fleet : Fleet Agent) (index : Nat) : Fleet Agent :=
  { fleet with processes := fleet.processes.modify index fun process =>
      { process with killed := true } }

/-- The processes after an action of the protocol: a crash of an agent kills those it runs. -/
def survivors (processes : List (Process Agent)) : Action Agent → List (Process Agent)
  | .crash agent => processes.map fun process =>
    { process with killed := process.killed || decide (process.agent = agent) }
  | _ => processes

def step (external : External) (fleet : Fleet Agent) : FleetAction Agent → Fleet Agent
  | .capture agent config opening faults => fleet.capture external agent config opening faults
  | .synthetic agent node batches limits faults clock =>
    fleet.synthetic external agent node batches limits faults clock
  | .round process tick => fleet.round external process tick
  | .kill process => fleet.kill process
  | .network action =>
    if action.enqueues then fleet
    else
      { system := fleet.system.step external action
        processes := survivors fleet.processes action }

def run (external : External) (actions : List (FleetAction Agent)) : Fleet Agent :=
  Runs.run (step external) {} actions

end Fleet

end FlowObservability
