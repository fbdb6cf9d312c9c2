import FlowObservability.UploadPasses

/-!
The loop of `upload_once` refines the delivery protocol: a call of it is a schedule of the steps
of one pass.
-/

namespace FlowObservability

open Runs Transaction

variable {Agent : Type} {external : External} {exchanges : Nat → Exchange}

/-- The system after a call of `upload_once` on the spool of an agent, which has ended so. -/
structure System.Realises (system last : System Agent) (agent : Agent) (pass : Nat)
    (outcome : Except AnyhowError UploadReport × (Nat × ControlTables) × SpoolTables) : Prop where
  tables : (last.spools agent).tables = outcome.2.2
  control : last.control = outcome.2.1.2
  enqueued : (last.spools agent).enqueued = (system.spools agent).enqueued
  otherSpools : ∀ other, other ≠ agent → last.spools other = system.spools other
  otherPasses : ∀ other, other ≠ pass → last.passes other = system.passes other
  finished : ∀ report, outcome.1 = .ok report → ∃ count,
    report.acknowledged = UInt64.ofNat count ∧
      last.passes pass = some { agent, queue := [], acknowledged := count }
  failed : ∀ error, outcome.1 = .error error → last.passes pass = none

section Loop

variable {system middle last : System Agent} {agent : Agent} {pass : Nat}
  {outcome : Except AnyhowError UploadReport × (Nat × ControlTables) × SpoolTables}

theorem System.Realises.trans (realises : middle.Realises last agent pass outcome)
    (enqueued : (middle.spools agent).enqueued = (system.spools agent).enqueued)
    (otherSpools : ∀ other, other ≠ agent → middle.spools other = system.spools other)
    (otherPasses : ∀ other, other ≠ pass → middle.passes other = system.passes other) :
    system.Realises last agent pass outcome where
  tables := realises.tables
  control := realises.control
  enqueued := realises.enqueued.trans enqueued
  otherSpools other different :=
    (realises.otherSpools other different).trans (otherSpools other different)
  otherPasses other different :=
    (realises.otherPasses other different).trans (otherPasses other different)
  finished := realises.finished
  failed := realises.failed

variable [DecidableEq Agent]

def Exchange.ending (pass response : Nat) (exchange : Exchange) : Action Agent :=
  match exchange.heard with
  | .response index =>
    if index < exchange.servings.length then .receive pass (response + index) else .abandon pass
  | _ => .abandon pass

def Serving.action (request : Nat) (serving : Serving) : Action Agent :=
  .deliver request serving.faults serving.limits serving.clock

/-- The steps of one exchange, from the numbers of its request and its first response. -/
def Exchange.schedule (pass request response : Nat) (exchange : Exchange) : List (Action Agent) :=
  .post pass :: exchange.servings.map (Serving.action request) ++ [exchange.ending pass response]

structure System.Exchanged (system last : System Agent) (pass : Nat)
    (answered : UploadPass Agent) (reply : Except AnyhowError Unit) (control : ControlTables) :
    Prop where
  spools : last.spools = system.spools
  control : last.control = control
  requests : last.requests.length = system.requests.length + 1
  otherPasses : ∀ other, other ≠ pass → last.passes other = system.passes other
  acked : reply = .ok () → last.passes pass = some answered
  failed : ∀ error, reply = .error error → last.passes pass = none

structure System.Served (system last : System Agent) (pass : Nat) (waiting : UploadPass Agent)
    (served : List Response × ControlTables) : Prop where
  spools : last.spools = system.spools
  control : last.control = served.2
  requests : last.requests.length = system.requests.length + 1
  otherPasses : ∀ other, other ≠ pass → last.passes other = system.passes other
  found : last.passes pass = some waiting
  responses : last.responses = system.responses ++ served.1.map (system.requests.length, ·)

variable (external) in
theorem servings_realised {request : Nat} {text : String}
    (sent : system.requests[request]? = some text) (servings : List Serving) :
    ∃ committed, Runs.run (System.step external) system (servings.map (Serving.action request)) =
      { system with
        control := (serve external text system.control servings).2
        responses := system.responses ++
          (serve external text system.control servings).1.map (request, ·)
        committed } := by
  induction servings generalizing system with
  | nil => exact ⟨system.committed, by simp [serve]⟩
  | cons serving rest ih =>
      rw [List.map_cons, run_cons, Serving.action]
      simp only [System.step, System.deliver, sent]
      obtain ⟨committed, same⟩ := @ih { system with
        control := (ingestRoute external serving.faults serving.limits serving.clock text
          system.control).2
        responses := system.responses ++ [(request, (ingestRoute external serving.faults
          serving.limits serving.clock text system.control).1)]
        committed := system.committed ++ System.commits external text (ingestRoute external
          serving.faults serving.limits serving.clock text system.control).1 } sent
      exact ⟨committed, by rw [same]; simp [serve]⟩

variable (external) in
theorem post_realised {envelope : BatchEnvelope} {rest : List BatchEnvelope} {acknowledged : Nat}
    (found : system.passes pass = some { agent, queue := envelope :: rest, acknowledged })
    (servings : List Serving) :
    system.Served
      (Runs.run (System.step external) system
        (.post pass :: servings.map (Serving.action system.requests.length)))
      pass {
        agent
        queue := envelope :: rest
        phase := .waiting system.requests.length
        acknowledged }
      (serve external (uploadBody envelope) system.control servings) := by
  have posted : system.step external (.post pass) = { system.setPass pass (some {
      agent
      queue := envelope :: rest
      phase := .waiting system.requests.length
      acknowledged
    }) with requests := system.requests ++ [uploadBody envelope] } := by
    simp only [System.step, System.post, found]
  have sent : (system.step external (.post pass)).requests[system.requests.length]? =
      some (uploadBody envelope) := by
    simp [posted]
  obtain ⟨committed, delivered⟩ := servings_realised external sent servings
  rw [run_cons, delivered, posted]
  refine ⟨rfl, rfl, by simp, fun other different => ?_, ?_, rfl⟩
  · simp [System.setPass, different]
  · simp [System.setPass]

variable (external exchanges) in
theorem exchange_realised {envelope : BatchEnvelope} {rest : List BatchEnvelope}
    {acknowledged : Nat} (index : Nat)
    (found : system.passes pass = some { agent, queue := envelope :: rest, acknowledged }) :
    system.Exchanged
      (Runs.run (System.step external) system
        ((exchanges index).schedule pass system.requests.length system.responses.length))
      pass { agent, queue := envelope :: rest, phase := .answered, acknowledged }
      (readReply envelope
        (ingestPeer external exchanges (uploadBody envelope) (index, system.control)).1)
      (ingestPeer external exchanges (uploadBody envelope) (index, system.control)).2.2 := by
  have served := post_realised external found (exchanges index).servings
  rw [Exchange.schedule, run_snoc]
  generalize Runs.run (System.step external) system
    (.post pass :: (exchanges index).servings.map (Serving.action system.requests.length)) = middle
    at served ⊢
  unfold ingestPeer
  have count := serve_length external (uploadBody envelope) system.control (exchanges index).servings
  generalize serve external (uploadBody envelope) system.control (exchanges index).servings =
    answers at served count ⊢
  have abandoned : ∀ reply error, readReply envelope reply = .error error →
      system.Exchanged (middle.step external (.abandon pass)) pass
        { agent, queue := envelope :: rest, phase := .answered, acknowledged }
        (readReply envelope reply) answers.2 := by
    intro reply error failed
    rw [failed]
    refine ⟨served.spools, served.control, served.requests, fun other different => ?_, by simp, ?_⟩
    · rw [← served.otherPasses other different]
      simp [System.step, System.setPass, different]
    · simp [System.step, System.setPass]
  dsimp only
  unfold Exchange.ending
  cases (exchanges index).heard with
  | nothing => exact abandoned .lost _ rfl
  | garbled => exact abandoned .garbled _ rfl
  | response place =>
      dsimp only [Heard.reply]
      split
      · rename_i inside
        obtain ⟨response, there⟩ : ∃ response, answers.1[place]? = some response :=
          ⟨_, List.getElem?_eq_getElem (count ▸ inside)⟩
        have arrived : middle.responses[system.responses.length + place]? =
            some (system.requests.length, response) := by
          rw [served.responses, List.getElem?_append_right (Nat.le_add_right _ _),
            Nat.add_sub_cancel_left, List.getElem?_map, there]
          rfl
        rw [there, Option.elim_some, readReply]
        simp only [System.step, System.receive, served.found, arrived, ↓reduceIte]
        cases readAck envelope response with
        | ok answered =>
            refine ⟨served.spools, served.control, served.requests, fun other different => ?_, ?_, ?_⟩
            · rw [← served.otherPasses other different]
              simp [System.setPass, different]
            · simp [System.setPass]
            · simp
        | error error =>
            refine ⟨served.spools, served.control, served.requests, fun other different => ?_, ?_, ?_⟩
            · rw [← served.otherPasses other different]
              simp [System.setPass, different]
            · simp
            · simp [System.setPass]
      · rename_i outside
        have missing : answers.1[place]? = none := by
          rw [List.getElem?_eq_none_iff, count]
          exact Nat.le_of_not_lt outside
        rw [missing]
        exact abandoned .lost _ rfl

/-- The system after an answered pass has acknowledged, which goes on when the row is deleted. -/
structure System.Settled (system last : System Agent) (agent : Agent) (pass : Nat)
    (settled : UploadPass Agent) (deletion : Except AnyhowError Unit × SpoolTables) : Prop where
  tables : (last.spools agent).tables = deletion.2
  control : last.control = system.control
  requests : last.requests = system.requests
  enqueued : (last.spools agent).enqueued = (system.spools agent).enqueued
  otherSpools : ∀ other, other ≠ agent → last.spools other = system.spools other
  otherPasses : ∀ other, other ≠ pass → last.passes other = system.passes other
  deleted : deletion.1 = .ok () → last.passes pass = some settled
  failed : ∀ error, deletion.1 = .error error → last.passes pass = none

variable (external) in
theorem acknowledge_realised {envelope : BatchEnvelope} {rest : List BatchEnvelope}
    {acknowledged : Nat} (faults : SpoolFaults)
    (found : system.passes pass =
      some { agent, queue := envelope :: rest, phase := .answered, acknowledged }) :
    system.Settled (system.step external (.acknowledge pass faults)) agent pass
      { agent, queue := rest, acknowledged := acknowledged + 1 }
      (Spool.acknowledge faults envelope.batchId envelope.checksum
        (system.spools agent).tables) := by
  simp only [System.step, System.acknowledge, found, System.setPass, System.setSpool]
  refine ⟨?_, rfl, rfl, ?_, ?_, ?_, ?_, ?_⟩
  · simp only [Function.update_self, SpoolHistory.tables_acknowledge]
  · simp only [Function.update_self, SpoolHistory.enqueued_acknowledge]
  · intro other different
    simp [different]
  · intro other different
    simp [different]
  · intro deleted
    simp [deleted]
  · intro error failed
    simp [failed]

omit [DecidableEq Agent] in
theorem System.Settled.elsewhere {answered resumed : UploadPass Agent}
    {reply : Except AnyhowError Unit} {control : ControlTables}
    {deletion : Except AnyhowError Unit × SpoolTables}
    (settled : middle.Settled last agent pass resumed deletion)
    (exchanged : system.Exchanged middle pass answered reply control) :
    (last.spools agent).enqueued = (system.spools agent).enqueued ∧
      (∀ other, other ≠ agent → last.spools other = system.spools other) ∧
      ∀ other, other ≠ pass → last.passes other = system.passes other := by
  refine ⟨by rw [settled.enqueued, exchanged.spools], ?_, ?_⟩
  · intro other different
    rw [settled.otherSpools other different, exchanged.spools]
  · intro other different
    rw [settled.otherPasses other different, exchanged.otherPasses other different]

theorem ingestPeer_state (request : String) (index : Nat) (control : ControlTables) :
    (ingestPeer external exchanges request (index, control)).2 =
      (index + 1, (ingestPeer external exchanges request (index, control)).2.2) := rfl

/-- The step is one of a call of `upload_once`, whose requests are numbered from `first` on. -/
def Action.OfCall (pass : Nat) (faults : SpoolFaults) (exchanges : Nat → Exchange) (first : Nat) :
    Action Agent → Prop
  | .post other => other = pass
  | .deliver request faults limits clock => ∃ index serving, request = first + index ∧
      serving ∈ (exchanges index).servings ∧
      serving.faults = faults ∧ serving.limits = limits ∧ serving.clock = clock
  | .receive other _ => other = pass
  | .acknowledge other used => other = pass ∧ used = faults
  | .abandon other => other = pass
  | _ => False

omit [DecidableEq Agent] in
theorem Exchange.schedule_ofCall {faults : SpoolFaults} {first index response : Nat} :
    ∀ action : Action Agent, action ∈ (exchanges index).schedule pass (first + index) response →
      action.OfCall pass faults exchanges first := by
  intro action member
  simp only [Exchange.schedule, List.cons_append, List.mem_cons, List.mem_append, List.mem_map,
    List.not_mem_nil, or_false] at member
  rcases member with rfl | ⟨serving, listed, rfl⟩ | rfl
  · rfl
  · exact ⟨index, serving, rfl, listed, rfl, rfl, rfl⟩
  · unfold Exchange.ending
    split
    · split
      · rfl
      · rfl
    · rfl

variable (external exchanges) in
theorem uploadFrom_realised (faults : SpoolFaults) {queue : List BatchEnvelope}
    {acknowledged : Nat} (first index : Nat) (sent : system.requests.length = first + index)
    (found : system.passes pass = some { agent, queue, acknowledged }) :
    ∃ actions, (∀ action ∈ actions, action.OfCall pass faults exchanges first) ∧
      system.Realises (Runs.run (System.step external) system actions) agent pass
        (uploadFrom (ingestPeer external exchanges) faults queue (UInt64.ofNat acknowledged)
          (index, system.control) (system.spools agent).tables) := by
  induction queue generalizing system acknowledged index with
  | nil =>
      refine ⟨[], by simp, rfl, rfl, rfl, fun _ _ => rfl, fun _ _ => rfl, ?_, by simp [uploadFrom]⟩
      rintro report ⟨rfl⟩
      exact ⟨acknowledged, rfl, found⟩
  | cons envelope rest ih =>
      have exchanged := exchange_realised external exchanges index found
      have ours : ∀ action : Action Agent, action ∈ (exchanges index).schedule pass
          system.requests.length system.responses.length →
            action.OfCall pass faults exchanges first := by
        rw [sent]
        exact Exchange.schedule_ofCall
      rw [uploadFrom]
      dsimp only
      rw [ingestPeer_state]
      generalize (exchanges index).schedule pass system.requests.length system.responses.length =
        schedule at exchanged ours
      generalize posted : Runs.run (System.step external) system schedule = middle at exchanged
      cases reply : readReply envelope
          (ingestPeer external exchanges (uploadBody envelope) (index, system.control)).1 with
      | error error =>
          refine ⟨schedule, ours, ?_⟩
          rw [posted]
          refine ⟨by rw [exchanged.spools], exchanged.control, by rw [exchanged.spools],
            fun other _ => by rw [exchanged.spools], exchanged.otherPasses, by simp, ?_⟩
          exact fun _ _ => exchanged.failed error reply
      | ok answered =>
          have settled := acknowledge_realised external faults
            (exchanged.acked reply)
          rw [exchanged.spools] at settled
          generalize stepped : middle.step external (.acknowledge pass faults) = next at settled
          obtain ⟨enqueued, otherSpools, otherPasses⟩ := settled.elsewhere exchanged
          have continued : ∀ later : List (Action Agent),
              (∀ action ∈ later, action.OfCall pass faults exchanges first) →
                ∀ action ∈ schedule ++ .acknowledge pass faults :: later,
                  action.OfCall pass faults exchanges first := by
            intro later own action member
            rcases List.mem_append.mp member with old | new
            · exact ours action old
            · rcases List.mem_cons.mp new with rfl | rest
              · exact ⟨rfl, rfl⟩
              · exact own action rest
          cases deletion : (Spool.acknowledge faults envelope.batchId envelope.checksum
              (system.spools agent).tables).1 with
          | error error =>
              refine ⟨schedule ++ [.acknowledge pass faults], continued [] (by simp), ?_⟩
              rw [run_snoc, posted, stepped]
              exact ⟨settled.tables, settled.control.trans exchanged.control, enqueued, otherSpools,
                otherPasses, by simp, fun _ _ => settled.failed error deletion⟩
          | ok deleted =>
              have requests : next.requests.length = first + (index + 1) := by
                rw [settled.requests, exchanged.requests, sent, Nat.add_assoc]
              obtain ⟨actions, later, realises⟩ :=
                ih (index + 1) requests (settled.deleted deletion)
              refine ⟨schedule ++ .acknowledge pass faults :: actions, continued actions later, ?_⟩
              rw [run_append, run_cons, posted, stepped]
              rw [UInt64.ofNat_add, settled.control, exchanged.control, settled.tables] at realises
              exact realises.trans enqueued otherSpools otherPasses

end Loop

/-- However often the network delivers each request, whatever the pass hears of it and whatever the
two engines do, a call of `upload_once` from a reachable state of the protocol is one more pass of
it with this limit: it ends in the same tables, touches nothing of the other spools and passes, and
the pass is at its end with its count or has given up. -/
theorem upload_once_realised [DecidableEq Agent] (external : External)
    (actions : List (Action Agent)) (agent : Agent) (pass : Nat) (faults : SpoolFaults)
    (limit : Nat) (exchanges : Nat → Exchange)
    (free : (System.run external actions).passes pass = none) :
    ∃ later : List (Action Agent),
      (∀ action ∈ later, action.OfCall pass faults exchanges
        (System.run external actions).requests.length) ∧
      (System.run external actions).Realises
        (System.run external (actions ++ .startUpload pass agent faults limit :: later)) agent pass
        (uploadOnce external (ingestPeer external exchanges) faults limit
          (0, (System.run external actions).control)
          ((System.run external actions).spools agent).tables) := by
  have appended : ∀ more, System.run external (actions ++ more) =
      Runs.run (System.step external) (System.run external actions) more :=
    fun more => run_append more
  simp only [appended, run_cons]
  generalize System.run external actions = system at free ⊢
  rw [uploadOnce]
  cases read : Spool.pending external faults limit (system.spools agent).tables with
  | error error =>
      have refused : system.step external (.startUpload pass agent faults limit) = system := by
        simp only [System.step, System.startUpload, free, read]
      rw [refused]
      refine ⟨[], by simp, rfl, rfl, rfl, fun _ _ => rfl, fun _ _ => rfl, by simp, fun _ _ => free⟩
  | ok queue =>
      have started : system.step external (.startUpload pass agent faults limit) =
          system.setPass pass (some { agent, queue }) := by
        simp only [System.step, System.startUpload, free, read]
      have found : (system.setPass pass (some { agent, queue })).passes pass =
          some { agent, queue } := by
        simp [System.setPass]
      have sent : (system.setPass pass (some { agent, queue })).requests.length =
          system.requests.length + 0 := rfl
      rw [started]
      obtain ⟨later, ours, realises⟩ := uploadFrom_realised external exchanges faults _ 0 sent found
      refine ⟨later, ours, realises.trans rfl (fun _ _ => rfl) ?_⟩
      intro other different
      simp [System.setPass, different]

theorem upload_once_realised_pendingUpload :
    ∃ later : List (Action (Fin 1)),
      (∀ action ∈ later, action.OfCall 0 noFaults (fun _ => servedExchange)
        (System.run oneExternal pendingUpload).requests.length) ∧
      (System.run oneExternal pendingUpload).Realises
        (System.run oneExternal (pendingUpload ++ .startUpload 0 0 noFaults 10 :: later)) 0 0
        (uploadOnce oneExternal (ingestPeer oneExternal fun _ => servedExchange) noFaults 10
          (0, (System.run oneExternal pendingUpload).control)
          ((System.run oneExternal pendingUpload).spools 0).tables) :=
  upload_once_realised oneExternal pendingUpload 0 0 noFaults 10 (fun _ => servedExchange) rfl

end FlowObservability
