import FlowObservability.ControlRefinement
import FlowObservability.SpoolHistory
import FlowObservability.Upload

/-!
The delivery protocol: agents with their spools, any number of upload passes over each
spool, one control store, and a network that keeps every request and every response and
hands them over late, repeatedly or never. Calls on the databases are atomic; a party that
crashes loses its passes and keeps its database.
-/

namespace FlowObservability

open Runs Table Transaction

inductive Phase where
  | ready
  | waiting (request : Nat)
  | answered
  deriving DecidableEq, Repr

/-- A run of `upload_once`: the envelopes of `pending` that are left, and the count it returns. -/
structure UploadPass (Agent : Type) where
  agent : Agent
  queue : List BatchEnvelope
  phase : Phase := .ready
  acknowledged : Nat := 0

/-- Requests are numbered by their place in the list; a response carries the number of the
request it answers. `committed` records the envelopes that requests inserted: no party reads it. -/
structure System (Agent : Type) where
  spools : Agent → SpoolHistory := fun _ => {}
  control : ControlTables := {}
  passes : Nat → Option (UploadPass Agent) := fun _ => none
  requests : List String := []
  responses : List (Nat × Response) := []
  committed : List BatchEnvelope := []

inductive Action (Agent : Type) where
  | openSpool (agent : Agent) (faults : SpoolFaults) (limits : SpoolLimits)
  | enqueue (agent : Agent) (faults : SpoolFaults) (args : EnqueueArgs)
  | startUpload (pass : Nat) (agent : Agent) (faults : SpoolFaults) (limit : Nat)
  | post (pass : Nat)
  | deliver (request : Nat) (faults : ControlFaults) (limits : ControlLimits)
      (clock : Option UInt64)
  | receive (pass : Nat) (response : Nat)
  | acknowledge (pass : Nat) (faults : SpoolFaults)
  | abandon (pass : Nat)
  | crash (agent : Agent)

namespace System

variable {Agent : Type} [DecidableEq Agent]

def setSpool (system : System Agent) (agent : Agent) (history : SpoolHistory) : System Agent :=
  { system with spools := Function.update system.spools agent history }

def setPass (system : System Agent) (pass : Nat) (state : Option (UploadPass Agent)) :
    System Agent :=
  { system with passes := Function.update system.passes pass state }

def startUpload (external : External) (system : System Agent) (pass : Nat) (agent : Agent)
    (faults : SpoolFaults) (limit : Nat) : System Agent :=
  match system.passes pass with
  | some _ => system
  | none =>
    match Spool.pending external faults limit (system.spools agent).tables with
    | .error _ => system
    | .ok queue => system.setPass pass (some { agent, queue })

def post (system : System Agent) (pass : Nat) : System Agent :=
  match system.passes pass with
  | some { agent, queue := envelope :: rest, phase := .ready, acknowledged } =>
    { system.setPass pass (some {
        agent
        queue := envelope :: rest
        phase := .waiting system.requests.length
        acknowledged
      }) with requests := system.requests ++ [uploadBody envelope] }
  | _ => system

def commits (external : External) (request : String) : Response → List BatchEnvelope
  | .ack { batchId := _, status := .inserted } => (external.fromSlice request).toList
  | _ => []

def deliver (external : External) (system : System Agent) (request : Nat) (faults : ControlFaults)
    (limits : ControlLimits) (clock : Option UInt64) : System Agent :=
  match system.requests[request]? with
  | none => system
  | some text =>
    let outcome := ingestRoute external faults limits clock text system.control
    { system with
      control := outcome.2
      responses := system.responses ++ [(request, outcome.1)]
      committed := system.committed ++ commits external text outcome.1 }

/-- The pass gives up on an error; on an ack it goes on to `spool.acknowledge`. -/
def receive (system : System Agent) (pass : Nat) (response : Nat) : System Agent :=
  match system.passes pass, system.responses[response]? with
  | some { agent, queue := envelope :: rest, phase := .waiting request, acknowledged },
      some (answered, response) =>
    if answered = request then
      match readAck envelope response with
      | .ok () => system.setPass pass (some {
          agent
          queue := envelope :: rest
          phase := .answered
          acknowledged
        })
      | .error _ => system.setPass pass none
    else system
  | _, _ => system

def acknowledge (system : System Agent) (pass : Nat) (faults : SpoolFaults) : System Agent :=
  match system.passes pass with
  | some { agent, queue := envelope :: rest, phase := .answered, acknowledged } =>
    let before := system.spools agent
    let after := before.acknowledge faults envelope.batchId envelope.checksum
    let result := (Spool.acknowledge faults envelope.batchId envelope.checksum before.tables).1
    (system.setSpool agent after).setPass pass (match result with
      | .ok () => some { agent, queue := rest, acknowledged := acknowledged + 1 }
      | .error _ => none)
  | _ => system

/-- The processes of an agent end: its passes are gone and its spool has to be opened again. -/
def crash (system : System Agent) (agent : Agent) : System Agent :=
  { system.setSpool agent { system.spools agent with limits := none } with
    passes := fun pass => (system.passes pass).filter fun state => state.agent != agent }

def step (external : External) (system : System Agent) : Action Agent → System Agent
  | .openSpool agent faults limits =>
    system.setSpool agent ((system.spools agent).step external (.open faults limits))
  | .enqueue agent faults args =>
    system.setSpool agent ((system.spools agent).step external (.enqueue faults args))
  | .startUpload pass agent faults limit => system.startUpload external pass agent faults limit
  | .post pass => system.post pass
  | .deliver request faults limits clock => system.deliver external request faults limits clock
  | .receive pass response => system.receive pass response
  | .acknowledge pass faults => system.acknowledge pass faults
  | .abandon pass => system.setPass pass none
  | .crash agent => system.crash agent

def run (external : External) (actions : List (Action Agent)) : System Agent :=
  Runs.run (step external) {} actions

end System

end FlowObservability
