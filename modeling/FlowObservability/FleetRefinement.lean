import FlowObservability.Fleet
import FlowObservability.SpoolLimits

/-!
The fleet refines the delivery protocol: a round of a process is a schedule of protocol steps, so a
run of the commands, however their rounds interleave, is a run of the protocol.
-/

namespace FlowObservability

open Runs Transaction

/-! A spool opened with the same limits once more is as it was. -/

def SpoolLimits.Opens (limits : SpoolLimits) : Prop :=
  ∃ faults tables spool next, Spool.open faults limits tables = (.ok spool, next)

section Opening

variable {external : External} {limits : SpoolLimits} {history : SpoolHistory}

theorem configure_again {faults : SpoolFaults} {maxPayloadBytes : UInt64}
    {before : SpoolTables} {maxPageCount : Int}
    (configured : configure faults maxPayloadBytes before = .ok maxPageCount)
    (tables : SpoolTables) : configure noFaults maxPayloadBytes tables = .ok maxPageCount := by
  unfold configure at configured ⊢
  rw [runs_noFaults]
  cases ran : runs faults .configure before with
  | error error =>
      rw [ran] at configured
      cases configured
  | ok _ =>
      rw [ran] at configured
      exact configured

theorem SpoolLimits.Opens.again (opens : limits.Opens) (tables : SpoolTables) :
    ∃ spool, spool.limits = limits ∧ Spool.open noFaults limits tables =
      (.ok spool, { tables with nextSeq := some (tables.nextSeq.getD 0) }) := by
  obtain ⟨faults, before, spool, next, opened⟩ := opens
  unfold Spool.open at opened
  split at opened
  · cases opened
  · rename_i positive
    split at opened
    · cases opened
    · split at opened
      · cases opened
      · rename_i maxPageCount configured
        refine ⟨{ limits, maxPageCount }, rfl, ?_⟩
        unfold Spool.open
        rw [if_neg positive, configure_again configured tables]
        simp only [runs_noFaults, sqlite_ok]

theorem SpoolHistory.step_reopen (opens : limits.Opens)
    (created : history.tables.nextSeq ≠ none) :
    history.step external (.open noFaults limits) = { history with limits := some limits } := by
  obtain ⟨spool, same, opened⟩ := opens.again history.tables
  obtain ⟨number, current⟩ := Option.ne_none_iff_exists'.mp created
  simp only [SpoolHistory.step, opened, same, current, Option.getD_some]
  rw [← current]

end Opening

namespace System

variable {Agent : Type} [DecidableEq Agent] {external : External} {system : System Agent}

/-! What every step of the protocol keeps of a spool. -/

theorem step_accounted (accounted : ∀ agent, (system.spools agent).Accounted external)
    (action : Action Agent) (agent : Agent) :
    ((system.step external action).spools agent).Accounted external := by
  have before := accounted agent
  have change := spoolStep_step external system action agent
  generalize (system.step external action).spools agent = history at change
  cases change with
  | same => exact before
  | call made => exact before.step _
  | acknowledged faults found => exact before.acknowledge faults _ _
  | crashed => exact ⟨before.accounts, before.counted⟩

theorem step_created (accounted : ∀ agent, (system.spools agent).Accounted external)
    (action : Action Agent) {agent : Agent} (created : (system.spools agent).tables.nextSeq ≠ none) :
    ((system.step external action).spools agent).tables.nextSeq ≠ none := by
  have before := accounted agent
  have change := spoolStep_step external system action agent
  generalize (system.step external action).spools agent = history at change
  cases change with
  | same => exact created
  | call made => exact before.step_nextSeq created _
  | @acknowledged pass envelope rest count faults found =>
      rcases before.acknowledge_cases faults envelope.batchId envelope.checksum with
        ⟨same, _⟩ | ⟨_, settled⟩
      · rw [same]
        exact created
      · rw [settled]
        exact created
  | crashed => exact created

theorem run_spools (accounted : ∀ agent, (system.spools agent).Accounted external)
    (schedule : List (Action Agent)) :
    (∀ agent, ((Runs.run (System.step external) system schedule).spools agent).Accounted
      external) ∧
    ∀ agent, (system.spools agent).tables.nextSeq ≠ none →
      ((Runs.run (System.step external) system schedule).spools agent).tables.nextSeq ≠ none := by
  induction schedule using List.reverseRecOn with
  | nil => exact ⟨accounted, fun _ => id⟩
  | append_singleton schedule action ih =>
      obtain ⟨kept, created⟩ := ih
      rw [run_snoc]
      exact ⟨step_accounted kept action, fun agent before =>
        step_created kept action (created agent before)⟩

variable (external) in
theorem openSpool_created {agent : Agent} {faults : SpoolFaults} {limits : SpoolLimits}
    {spool : Spool} {tables : SpoolTables}
    (opened : Spool.open faults limits (system.spools agent).tables = (.ok spool, tables)) :
    ((system.step external (.openSpool agent faults limits)).spools agent).tables = tables ∧
      tables.nextSeq ≠ none := by
  have named := (Spool.open_ok (congrArg Prod.fst opened)).2.2
  rw [opened] at named
  have present : tables.nextSeq ≠ none := by
    dsimp only at named
    rw [named]
    exact Option.some_ne_none _
  refine ⟨?_, present⟩
  simp only [System.step, setSpool, Function.update_self, SpoolHistory.step, opened]

theorem setSpool_setSpool (agent : Agent) (first second : SpoolHistory) :
    (system.setSpool agent first).setSpool agent second = system.setSpool agent second := by
  simp [setSpool]

@[simp] theorem setSpool_spools (agent : Agent) (history : SpoolHistory) :
    (system.setSpool agent history).spools agent = history := by
  simp [setSpool]

variable (system) in
theorem enqueues_realised {limits : SpoolLimits} {tables last : SpoolTables}
    {envelopes : List BatchEnvelope} (stored : Enqueues external limits tables envelopes last)
    (agent : Agent) (history : SpoolHistory) (current : history.tables = tables)
    (opened : history.limits = some limits) (accounted : history.Accounted external) :
    ∃ schedule : List (Action Agent), (∀ action ∈ schedule, action.enqueues = true) ∧
      Runs.run (System.step external) (system.setSpool agent history) schedule =
        system.setSpool agent (history.follow limits last envelopes) := by
  induction stored generalizing history with
  | none =>
      refine ⟨[], by simp, ?_⟩
      simp only [run_nil, SpoolHistory.follow, ← current, ← opened, ← accounted.counted,
        List.append_nil]
  | @next tables next last args value envelopes faults stored later ih =>
      have called : history.step external (.enqueue faults args) = { history with
          tables := next
          enqueued := history.enqueued ++ [tables.nextEnvelope external args]
          evictedBatches := history.evictedBatches + value.evictedBatches } := by
        simp only [SpoolHistory.step, opened, SpoolHistory.enqueue, current, stored]
      have after := accounted.step (.enqueue faults args)
      rw [called] at after
      obtain ⟨schedule, enqueues, same⟩ := ih { history with
        tables := next
        enqueued := history.enqueued ++ [tables.nextEnvelope external args]
        evictedBatches := history.evictedBatches + value.evictedBatches } rfl opened after
      refine ⟨.enqueue agent faults args :: schedule, ?_, ?_⟩
      · intro action member
        rcases List.mem_cons.mp member with rfl | old
        · rfl
        · exact enqueues action old
      · rw [run_cons, System.step, setSpool_spools, called, setSpool_setSpool, same]
        simp [SpoolHistory.follow]

end System

/-! The rounds of a program. -/

namespace Program

variable {external : External} {run next : SyntheticRun} {faults : SpoolFaults}

theorem synthetic_advances (run : SyntheticRun) (external : External) (faults : SpoolFaults) :
    ∃ envelopes, (run.step external faults).enqueued = run.enqueued ++ envelopes ∧
      Enqueues external run.limits run.spool envelopes (run.step external faults).spool ∧
      (run.step external faults).limits = run.limits := by
  unfold SyntheticRun.step
  split
  · exact ⟨[], by simp, .none, rfl⟩
  · split
    · dsimp only
      split
      · rename_i refused
        rw [transact_error refused]
        exact ⟨[], by simp, .none, rfl⟩
      · rename_i stored
        exact ⟨_, rfl, .single stored, rfl⟩
    · exact ⟨[], by simp, .none, rfl⟩

theorem step_advances (program : Program) (external : External) (tick : Tick) :
    ∃ envelopes, (program.step external tick).enqueued = program.enqueued ++ envelopes ∧
      Enqueues external program.limits program.spool envelopes
        (program.step external tick).spool ∧
      (program.step external tick).limits = program.limits := by
  cases program with
  | capture config linkType run =>
      obtain ⟨envelopes, enqueued, stored⟩ := run.step_advances external config linkType tick
      exact ⟨envelopes, enqueued, stored, rfl⟩
  | synthetic run => exact synthetic_advances run external tick.enqueueFaults

@[simp] theorem withSpool_spool (program : Program) (tables : SpoolTables) :
    (program.withSpool tables).spool = tables := by
  cases program <;> rfl

@[simp] theorem withSpool_limits (program : Program) (tables : SpoolTables) :
    (program.withSpool tables).limits = program.limits := by
  cases program <;> rfl

@[simp] theorem withSpool_enqueued (program : Program) (tables : SpoolTables) :
    (program.withSpool tables).enqueued = program.enqueued := by
  cases program <;> rfl

end Program

/-- The steps of the protocol that an action of the fleet turns into: a step of the network into
itself, and one of a command into openings of spools and into enqueues. -/
def FleetAction.Becomes {Agent : Type} (action : FleetAction Agent) (part : List (Action Agent)) :
    Prop :=
  match action with
  | .network move => part = if move.enqueues then [] else [move]
  | _ => ∀ move ∈ part, move.enqueues = true ∨
      ∃ agent faults limits, move = .openSpool agent faults limits

theorem FleetAction.Becomes.of_command {Agent : Type} {action : FleetAction Agent}
    {part : List (Action Agent)} (command : ∀ move, action ≠ .network move)
    (moves : ∀ move ∈ part, move.enqueues = true ∨
      ∃ agent faults limits, move = .openSpool agent faults limits) : action.Becomes part := by
  cases action with
  | network move => exact absurd rfl (command move)
  | capture => exact moves
  | synthetic => exact moves
  | round => exact moves
  | kill => exact moves

namespace Fleet

variable {Agent : Type} [DecidableEq Agent] {external : External} {fleet next : Fleet Agent}
  {action : FleetAction Agent}

def programs (fleet : Fleet Agent) : List (Agent × Program) :=
  fleet.processes.map fun process => (process.agent, process.program)

/-- What a step can do: steps of the protocol that enqueue nothing, the start of a program on the
spool it opens, or a round of a program. -/
inductive Advances (external : External) (fleet : Fleet Agent) (action : FleetAction Agent)
    (next : Fleet Agent) : Prop
  | quiet (schedule : List (Action Agent))
      (system : next.system = Runs.run (System.step external) fleet.system schedule)
      (moves : ∀ move ∈ schedule, move.enqueues = false)
      (programs : next.programs = fleet.programs) (becomes : action.Becomes schedule)
  | launched (agent : Agent) (program : Program) {faults : SpoolFaults} {spool : Spool}
      (opened : Spool.open faults program.limits (fleet.tables agent) = (.ok spool, program.spool))
      (fresh : program.enqueued = [])
      (counted : ∀ config linkType run, program = .capture config linkType run →
        run.Counted config)
      (system : next.system = fleet.system.step external (.openSpool agent faults program.limits))
      (programs : next.programs = fleet.programs ++ [(agent, program)])
      (command : ∀ move, action ≠ .network move)
  | round {agent : Agent} {program : Program} {earlier later : List (Agent × Program)} (tick : Tick)
      {after : Program}
      (stepped : (program.withSpool (fleet.tables agent)).step external tick = after)
      (found : fleet.programs = earlier ++ (agent, program) :: later)
      (system : next.system = fleet.system.setSpool agent
        ((fleet.system.spools agent).follow after.limits after.spool
          (after.enqueued.drop program.enqueued.length)))
      (programs : next.programs = earlier ++ (agent, after) :: later)
      (command : ∀ move, action ≠ .network move)

theorem Advances.none (becomes : action.Becomes []) (same : next = fleet) :
    fleet.Advances external action next := by
  subst same
  exact .quiet [] rfl (by simp) rfl becomes

theorem openSpool_advances (command : ∀ move, action ≠ .network move) (agent : Agent)
    (limits : SpoolLimits) (faults : SpoolFaults) :
    fleet.Advances external action (fleet.openSpool external agent limits faults) := by
  refine .quiet [.openSpool agent faults limits] rfl (by simp [Action.enqueues]) rfl
    (.of_command command fun move member => ?_)
  rw [List.mem_singleton.mp member]
  exact .inr ⟨_, _, _, rfl⟩

theorem capture_advances (command : ∀ move, action ≠ .network move) (agent : Agent)
    (config : CaptureConfig) (opening : Except CaptureError Int32) (faults : SpoolFaults) :
    fleet.Advances external action (fleet.capture external agent config opening faults) := by
  have nothing : action.Becomes [] := .of_command command (by simp)
  unfold Fleet.capture
  split
  · exact .none nothing rfl
  · exact .none nothing rfl
  · dsimp only
    split
    · exact openSpool_advances command agent config.limits faults
    · rename_i linkType run started
      have counted := CaptureRun.start_counted started
      obtain ⟨_, _, spool, aggregator, opened, _, initial⟩ := CaptureRun.start_ok started
      have fresh : run.enqueued = [] := by rw [initial]
      refine .launched agent (.capture config linkType run) opened fresh ?_ rfl
        (by simp [Fleet.programs, Fleet.launch, Fleet.openSpool]) command
      rintro _ _ _ ⟨rfl⟩
      exact counted

theorem synthetic_advances (command : ∀ move, action ≠ .network move) (agent : Agent)
    (node : String) (batches : UInt64) (limits : SpoolLimits) (faults : SpoolFaults)
    (clock : Option UInt64) :
    fleet.Advances external action
      (fleet.synthetic external agent node batches limits faults clock) := by
  unfold Fleet.synthetic
  dsimp only
  split
  · exact openSpool_advances command agent limits faults
  · rename_i spool tables opened
    split
    · exact openSpool_advances command agent limits faults
    · rename_i run started
      obtain ⟨now, _, made⟩ := bind_ok started
      cases pure_ok made
      refine .launched agent (.synthetic { node, batches, limits, now, spool := tables }) opened rfl
        (by simp) rfl ?_ command
      simp [Fleet.programs, Fleet.launch, Fleet.openSpool]

theorem round_advances (command : ∀ move, action ≠ .network move) (index : Nat) (tick : Tick) :
    fleet.Advances external action (fleet.round external index tick) := by
  have nothing : action.Becomes [] := .of_command command (by simp)
  unfold Fleet.round
  split
  · exact .none nothing rfl
  · rename_i process found
    split
    · exact .none nothing rfl
    · obtain ⟨bound, same⟩ := List.getElem?_eq_some_iff.mp found
      obtain ⟨earlier, later, split, _, changed⟩ := @List.exists_of_set _ _ { process with
        program := (process.program.withSpool (fleet.tables process.agent)).step external tick
      } _ bound
      rw [same] at split
      have before : fleet.programs =
          earlier.map (fun process => (process.agent, process.program)) ++
            (process.agent, process.program) ::
              later.map fun process => (process.agent, process.program) := by
        simp [Fleet.programs, split]
      refine .round tick rfl before ?_ ?_ command
      · rw [← Program.withSpool_enqueued process.program (fleet.tables process.agent)]
      · dsimp only [Fleet.programs]
        rw [changed]
        simp

theorem survivors_programs (processes : List (Process Agent)) (move : Action Agent) :
    (survivors processes move).map (fun process => (process.agent, process.program)) =
      processes.map fun process => (process.agent, process.program) := by
  cases move with
  | crash agent => simp [survivors, Function.comp_def]
  | _ => rfl

theorem step_advances (external : External) (fleet : Fleet Agent) (action : FleetAction Agent) :
    fleet.Advances external action (fleet.step external action) := by
  cases action with
  | capture agent config opening faults =>
      exact capture_advances (by simp) agent config opening faults
  | synthetic agent node batches limits faults clock =>
      exact synthetic_advances (by simp) agent node batches limits faults clock
  | round index tick => exact round_advances (by simp) index tick
  | kill index =>
      refine .quiet [] rfl (by simp) ?_ (.of_command (by simp) (by simp))
      have kept : ∀ (processes : List (Process Agent)) index,
          (processes.modify index fun process => { process with killed := true }).map
            (fun process => (process.agent, process.program)) =
          processes.map fun process => (process.agent, process.program) := by
        intro processes index
        apply List.ext_getElem?
        intro place
        simp only [List.getElem?_map, List.getElem?_modify]
        cases processes[place]? with
        | none => rfl
        | some process => by_cases here : index = place <;> simp [here]
      exact kept fleet.processes index
  | network move =>
      simp only [Fleet.step]
      split
      · rename_i enqueues
        exact .none (by simp [FleetAction.Becomes, enqueues]) rfl
      · rename_i other
        refine .quiet [move] rfl ?_ (survivors_programs fleet.processes move)
          (by simp [FleetAction.Becomes, other])
        intro step member
        rw [List.mem_singleton.mp member]
        simpa using other

/-- The spools are in order, and those of the programs have been opened with their limits. -/
structure Standing (external : External) (fleet : Fleet Agent) : Prop where
  accounted : ∀ agent, (fleet.system.spools agent).Accounted external
  opens : ∀ agent program, (agent, program) ∈ fleet.programs → program.limits.Opens
  created : ∀ agent program, (agent, program) ∈ fleet.programs →
    (fleet.tables agent).nextSeq ≠ none

theorem Standing.run (standing : fleet.Standing external) {schedule : List (Action Agent)}
    (system : next.system = Runs.run (System.step external) fleet.system schedule)
    (opens : ∀ agent program, (agent, program) ∈ next.programs → program.limits.Opens)
    (created : ∀ agent program, (agent, program) ∈ next.programs →
      (fleet.tables agent).nextSeq ≠ none ∨ (next.tables agent).nextSeq ≠ none) :
    next.Standing external := by
  obtain ⟨accounted, kept⟩ := System.run_spools standing.accounted schedule
  rw [← system] at accounted kept
  refine ⟨accounted, opens, fun agent program member => ?_⟩
  rcases created agent program member with before | after
  · exact kept agent before
  · exact after

theorem Advances.realised (advances : fleet.Advances external action next)
    (standing : fleet.Standing external) : next.Standing external ∧
      ∃ schedule, next.system = Runs.run (System.step external) fleet.system schedule ∧
        action.Becomes schedule := by
  cases advances with
  | quiet schedule system moves programs becomes =>
      refine ⟨standing.run system ?_ ?_, schedule, system, becomes⟩
      · rw [programs]
        exact standing.opens
      · rw [programs]
        exact fun agent program member => .inl (standing.created agent program member)
  | @launched agent program faults spool opened fresh counted system programs command =>
      obtain ⟨same, named⟩ := System.openSpool_created external opened
      have realised : next.system = Runs.run (System.step external) fleet.system
          [.openSpool agent faults program.limits] := by
        rw [run_cons, run_nil, system]
      rw [← system] at same
      refine ⟨standing.run realised ?_ ?_, _, realised, .of_command command ?_⟩
      · intro other started member
        rw [programs] at member
        rcases List.mem_append.mp member with old | new
        · exact standing.opens other started old
        · cases List.mem_singleton.mp new
          exact ⟨_, _, _, _, opened⟩
      · intro other started member
        rw [programs] at member
        rcases List.mem_append.mp member with old | new
        · exact .inl (standing.created other started old)
        · cases List.mem_singleton.mp new
          rw [Fleet.tables, Fleet.tables, same]
          exact .inr named
      · intro move member
        rw [List.mem_singleton.mp member]
        exact .inr ⟨_, _, _, rfl⟩
  | @round agent program earlier later tick after stepped found system programs command =>
      have member : (agent, program) ∈ fleet.programs := by simp [found]
      obtain ⟨envelopes, enqueued, stored, limits⟩ :=
        (program.withSpool (fleet.tables agent)).step_advances external tick
      rw [stepped] at enqueued stored limits
      rw [Program.withSpool_limits] at limits stored
      rw [Program.withSpool_spool] at stored
      rw [Program.withSpool_enqueued] at enqueued
      have reopened : (fleet.system.spools agent).step external (.open noFaults program.limits) =
          { fleet.system.spools agent with limits := some program.limits } :=
        SpoolHistory.step_reopen (standing.opens agent program member)
          (standing.created agent program member)
      have opened := (standing.accounted agent).step (.open noFaults program.limits)
      rw [reopened] at opened
      obtain ⟨schedule, enqueues, same⟩ := System.enqueues_realised fleet.system stored agent
        { fleet.system.spools agent with limits := some program.limits } rfl rfl opened
      have realised : next.system = Runs.run (System.step external) fleet.system
          (.openSpool agent noFaults program.limits :: schedule) := by
        rw [run_cons, System.step, reopened, same, system, limits, enqueued, List.drop_left]
        rfl
      have known : ∀ other started, (other, started) ∈ next.programs →
          ∃ before, (other, before) ∈ fleet.programs ∧ before.limits = started.limits := by
        intro other started belongs
        rw [programs] at belongs
        rcases List.mem_append.mp belongs with old | new
        · exact ⟨started, by simp [found, old], rfl⟩
        · rcases List.mem_cons.mp new with same | old
          · cases same
            exact ⟨program, member, limits.symm⟩
          · exact ⟨started, by simp [found, old], rfl⟩
      refine ⟨standing.run realised ?_ ?_, _, realised, .of_command command ?_⟩
      · intro other started belongs
        obtain ⟨before, old, same⟩ := known other started belongs
        exact same ▸ standing.opens other before old
      · intro other started belongs
        obtain ⟨before, old, _⟩ := known other started belongs
        exact .inl (standing.created other before old)
      · intro move belongs
        rcases List.mem_cons.mp belongs with rfl | old
        · exact .inr ⟨_, _, _, rfl⟩
        · exact .inl (enqueues move old)

omit [DecidableEq Agent] in
theorem standing_initial : ({} : Fleet Agent).Standing external where
  accounted agent := ⟨accounts_initial external, rfl⟩
  opens := by simp [Fleet.programs]
  created := by simp [Fleet.programs]

theorem run_parts (external : External) (actions : List (FleetAction Agent)) :
    (run external actions).Standing external ∧ ∃ parts,
      List.Forall₂ FleetAction.Becomes actions parts ∧
      ∀ count, (run external (actions.take count)).system =
        System.run external (parts.take count).flatten :=
  run_realised Fleet.system FleetAction.Becomes (Standing external) standing_initial
    fun state action standing => (step_advances external state action).realised standing

end Fleet

/-- Whatever commands run at the agents, and however their rounds, the upload passes, the network
and crashes interleave: action by action the fleet takes steps of the protocol, a step of the
network being itself and one of a command being what it opens and enqueues, and after any number
of actions the spools, the control store and the messages are those of the steps so far. -/
theorem fleet_realised {Agent : Type} [DecidableEq Agent] (external : External)
    (actions : List (FleetAction Agent)) :
    ∃ parts : List (List (Action Agent)), List.Forall₂ FleetAction.Becomes actions parts ∧
      ∀ count, (Fleet.run external (actions.take count)).system =
        System.run external (parts.take count).flatten :=
  (Fleet.run_parts external actions).2

end FlowObservability
