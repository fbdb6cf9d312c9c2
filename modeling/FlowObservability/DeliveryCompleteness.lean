import FlowObservability.DeliveryOrder
import FlowObservability.SeriesConservation
import FlowObservability.SpoolGaps

/-!
Completeness of the delivery protocol: a batch that has left the pending ones is in the control
store, reported by `gaps`, or older than what an ingest kept.
-/

namespace FlowObservability

open Runs Table Transaction

variable {Agent : Type} {external : External}

def Action.spoolCall [DecidableEq Agent] (agent : Agent) : Action Agent → Option SpoolCall
  | .openSpool other faults limits => if other = agent then some (.open faults limits) else none
  | .enqueue other faults args => if other = agent then some (.enqueue faults args) else none
  | _ => none

theorem Action.spoolCall_ne_acknowledge [DecidableEq Agent] {agent : Agent} {action : Action Agent}
    {faults : SpoolFaults} {batchId checksum : String} :
    action.spoolCall agent ≠ some (.acknowledge faults batchId checksum) := by
  cases action <;> simp [spoolCall]

namespace System

/-- What an action does to the spool of an agent: nothing, a call of the agent, an acknowledgement
by a pass that has its answer, or a restart. -/
inductive SpoolStep [DecidableEq Agent] (external : External) (system : System Agent)
    (agent : Agent) (action : Action Agent) : SpoolHistory → Prop
  | same : SpoolStep external system agent action (system.spools agent)
  | call {call : SpoolCall} (made : action.spoolCall agent = some call) :
      SpoolStep external system agent action ((system.spools agent).step external call)
  | acknowledged {pass : Nat} {envelope : BatchEnvelope} {rest : List BatchEnvelope}
      {count : Nat} (faults : SpoolFaults)
      (found : system.passes pass = some ⟨agent, envelope :: rest, .answered, count⟩) :
      SpoolStep external system agent action
        ((system.spools agent).acknowledge faults envelope.batchId envelope.checksum)
  | crashed : SpoolStep external system agent action { system.spools agent with limits := none }

section Steps

variable [DecidableEq Agent] {system : System Agent}

theorem spoolStep_setSpool {agent other : Agent} {action : Action Agent} {history : SpoolHistory}
    (changed : other = agent → SpoolStep external system agent action history) :
    SpoolStep external system agent action ((system.setSpool other history).spools agent) := by
  by_cases same : agent = other
  · subst same
    simpa [setSpool] using changed rfl
  · simpa [setSpool, same] using SpoolStep.same

theorem spoolStep_step (external : External) (system : System Agent) (action : Action Agent)
    (agent : Agent) :
    SpoolStep external system agent action ((system.step external action).spools agent) := by
  cases action with
  | openSpool other faults limits =>
      refine spoolStep_setSpool fun same => ?_
      subst same
      exact .call (by simp [Action.spoolCall])
  | enqueue other faults args =>
      refine spoolStep_setSpool fun same => ?_
      subst same
      exact .call (by simp [Action.spoolCall])
  | startUpload pass other faults limit =>
      simp only [System.step, System.startUpload]
      split
      · exact .same
      · split
        · exact .same
        · exact .same
  | post pass =>
      simp only [System.step, System.post]
      split
      · exact .same
      · exact .same
  | deliver request faults limits clock =>
      simp only [System.step, System.deliver]
      split
      · exact .same
      · exact .same
  | receive pass response =>
      simp only [System.step, System.receive]
      split
      · split
        · split
          · exact .same
          · exact .same
        · exact .same
      · exact .same
  | acknowledge pass faults =>
      simp only [System.step, System.acknowledge]
      split
      · rename_i other envelope rest count found
        refine spoolStep_setSpool fun same => ?_
        subst same
        exact .acknowledged faults found
      · exact .same
  | abandon pass => exact .same
  | crash other =>
      refine spoolStep_setSpool fun same => ?_
      subst same
      exact .crashed

/-- An ingest of the run came when the control store held the envelope, at a time when it was too old
to be kept. -/
def Expired (external : External) (actions : List (Action Agent))
    (envelope : BatchEnvelope) : Prop :=
  ∃ before request faults limits now,
    before ++ [.deliver request faults limits (some now)] <+: actions ∧
    request < (run external before).requests.length ∧
    (run external before).control.Holds envelope ∧
    envelope.body.createdAt.toNat < controlCutoff now limits.maxAgeSeconds

theorem Expired.of_mem {external : External} {actions : List (Action Agent)}
    {envelope : BatchEnvelope} (expired : Expired external actions envelope) :
    ∃ request faults limits now, .deliver request faults limits (some now) ∈ actions ∧
      envelope.body.createdAt.toNat < controlCutoff now limits.maxAgeSeconds := by
  obtain ⟨before, request, faults, limits, now, within, _, _, tooOld⟩ := expired
  exact ⟨request, faults, limits, now, within.subset (by simp), tooOld⟩

/-- The control store holds what was committed and has not expired since, every row that an agent
acknowledged is that of an envelope committed, and every gap records its envelope. -/
structure Complete (external : External) (actions : List (Action Agent)) (system : System Agent) :
    Prop where
  safe : system.Safe external
  recorded : ∀ agent, (system.spools agent).Recorded external
  ledger : ∃ ledger : Ledger, system.control = ledger.tables ∧
    (∀ envelope ∈ ledger.stored, system.Committed envelope) ∧
    ∀ envelope, system.Committed envelope →
      envelope ∈ ledger.stored ∨ Expired external actions envelope
  settled : ∀ agent, ∀ row ∈ (system.spools agent).acknowledged, ∃ envelope,
    system.Committed envelope ∧ row = batchRow envelope

variable {actions : List (Action Agent)}

theorem Complete.deliver {before : List (Action Agent)}
    (complete : (run external before).Complete external actions)
    (trusted : (run external before).Trusted external) {request : Nat} {faults : ControlFaults}
    {limits : ControlLimits} {clock : Option UInt64}
    (within : before ++ [.deliver request faults limits clock] <+: actions) :
    ∃ ledger : Ledger, ((run external before).deliver external request faults limits clock).control =
        ledger.tables ∧
      (∀ envelope ∈ ledger.stored, envelope ∈
        ((run external before).deliver external request faults limits clock).committed) ∧
      ∀ envelope ∈ ((run external before).deliver external request faults limits clock).committed,
        envelope ∈ ledger.stored ∨ Expired external actions envelope := by
  unfold System.deliver
  split
  · exact complete.ledger
  · rename_i text sent
    obtain ⟨envelope, enqueued, rfl⟩ := complete.safe.requests text (List.mem_of_getElem? sent)
    obtain ⟨ledger, tables, stored, kept⟩ := complete.ledger
    have decoded := trusted.upload envelope enqueued
    rw [tables]
    dsimp only
    rcases ingestRoute_ledger decoded faults limits clock ledger with
      ⟨now, status, next, rfl, ingested, routed⟩ | ⟨refused, unchanged⟩
    · obtain ⟨added, remaining, inserts⟩ := Ledger.ingestAt_members ingested
      rw [routed]
      refine ⟨next, rfl, ?_, ?_⟩
      · intro other held
        rcases added other held with old | ⟨rfl, rfl⟩
        · exact List.mem_append_left _ (stored other old)
        · exact List.mem_append_right _ (by simp [commits, decoded])
      · intro other committed
        rcases List.mem_append.mp committed with old | new
        · rcases kept other old with held | expired
          · rcases remaining other held with still | tooOld
            · exact .inl still
            · refine .inr ⟨before, request, faults, limits, now, within,
                (List.getElem?_eq_some_iff.mp sent).1, ?_, tooOld⟩
              rw [tables]
              exact Ledger.holds held
          · exact .inr expired
        · cases eq_of_mem_commits decoded new
          cases status with
          | inserted => exact .inl (inserts rfl)
          | duplicate => simp [commits] at new
    · rw [unchanged, commits_of_refused refused, List.append_nil]
      exact ⟨ledger, rfl, stored, kept⟩

theorem Complete.recorded_step (complete : system.Complete external actions)
    (action : Action Agent) (agent : Agent) :
    ((system.step external action).spools agent).Recorded external := by
  have recorded := complete.recorded agent
  have change := spoolStep_step external system action agent
  generalize (system.step external action).spools agent = history at change
  cases change with
  | same => exact recorded
  | call made => exact recorded.step _
  | acknowledged faults found => exact recorded.acknowledge faults _ _
  | crashed =>
      have accounted := recorded.checked.accounted
      exact ⟨⟨⟨accounted.accounts, accounted.counted⟩, recorded.checked.columns⟩,
        recorded.bytes, recorded.gaps⟩

theorem Complete.settled_step (complete : system.Complete external actions) (action : Action Agent)
    (agent : Agent) : ∀ row ∈ ((system.step external action).spools agent).acknowledged,
      ∃ envelope, (system.step external action).Committed envelope ∧ row = batchRow envelope := by
  have grows : system.Grows (system.step external action) := grows_step action
  have later : ∀ row ∈ (system.spools agent).acknowledged, ∃ envelope,
      (system.step external action).Committed envelope ∧ row = batchRow envelope := by
    intro row before
    obtain ⟨envelope, committed, same⟩ := complete.settled agent row before
    exact ⟨envelope, grows.committed committed, same⟩
  intro row settled
  have change := spoolStep_step external system action agent
  generalize (system.step external action).spools agent = history at settled change
  cases change with
  | same => exact later row settled
  | @call call made =>
      cases call with
      | «open» faults limits =>
          rw [acknowledged_step_open] at settled
          exact later row settled
      | enqueue faults args =>
          rw [acknowledged_step_enqueue] at settled
          exact later row settled
      | acknowledge faults batchId checksum => exact absurd made Action.spoolCall_ne_acknowledge
  | @acknowledged pass envelope rest count faults found =>
      have passSafe := complete.safe.passes pass _ found
      obtain ⟨first, head, committed⟩ := passSafe.answered rfl
      cases head
      have belongs := passSafe.queue envelope List.mem_cons_self
      rcases (complete.safe.accounted agent).acknowledge_enqueued belongs faults with
        ⟨same, _⟩ | ⟨added, _⟩
      · rw [same] at settled
        exact later row settled
      · rw [added] at settled
        rcases List.mem_append.mp settled with before | new
        · exact later row before
        · exact ⟨envelope, grows.committed committed, List.mem_singleton.mp new⟩
  | crashed => exact later row settled

theorem Complete.step {before : List (Action Agent)}
    (complete : (run external before).Complete external actions) {action : Action Agent}
    (within : before ++ [action] <+: actions)
    (trusted : ((run external before).step external action).Trusted external) :
    ((run external before).step external action).Complete external actions := by
  have grows : (run external before).Grows ((run external before).step external action) :=
    grows_step action
  refine ⟨complete.safe.step action trusted, complete.recorded_step action, ?_,
    complete.settled_step action⟩
  by_cases delivers : ∃ request faults limits clock, action = .deliver request faults limits clock
  · obtain ⟨request, faults, limits, clock, rfl⟩ := delivers
    exact complete.deliver (trusted.earlier grows) within
  · obtain ⟨control, committed⟩ := quiet_step external (run external before)
      fun request faults limits clock same => delivers ⟨request, faults, limits, clock, same⟩
    rw [control]
    simp only [Committed, committed]
    exact complete.ledger

theorem run_complete (trusted : (run external actions).Trusted external) :
    (run external actions).Complete external actions := by
  refine run_invariant_within ?_ (fun _ action later => later.earlier (grows_step action)) ?_ trusted
  · refine ⟨safe_initial, fun _ => recorded_initial external, ?_, by simp⟩
    exact ⟨Ledger.empty, rfl, by simp [Ledger.empty], by simp [Committed]⟩
  · exact fun before action within later complete => Complete.step complete within later

end Steps

end System

/-- In every run of the protocol: the flow buckets of the control store are one copy of those of
envelopes enqueued, and an envelope enqueued is still pending, is one of these, has an event in the
answer of `gaps`, or was in the store at an ingest of the run for which it was too old. -/
theorem delivery_complete [DecidableEq Agent] (external : External) (actions : List (Action Agent))
    (trusted : (System.run external actions).Trusted external) :
    ∃ stored : List BatchEnvelope, (stored.map (·.sequence)).Nodup ∧
      (System.run external actions).control.flowBuckets = stored.flatMap flowRows ∧
      (∀ envelope ∈ stored, ∃ agent,
        envelope ∈ ((System.run external actions).spools agent).enqueued) ∧
      ∀ agent, ∃ events,
        Spool.gaps noFaults ((System.run external actions).spools agent).tables = .ok events ∧
        ∀ envelope ∈ ((System.run external actions).spools agent).enqueued,
          batchRow envelope ∈ ((System.run external actions).spools agent).tables.batches ∨
          envelope ∈ stored ∨
          (∃ event ∈ events, ∃ later reason, event = envelope.gapEvent later reason) ∨
          System.Expired external actions envelope := by
  have complete := System.run_complete trusted
  obtain ⟨ledger, tables, committed, kept⟩ := complete.ledger
  refine ⟨ledger.stored, ledger.sequences, by rw [tables]; rfl,
    fun envelope held => complete.safe.committed envelope (committed envelope held), ?_⟩
  intro agent
  have recorded := complete.recorded agent
  have accounts := recorded.checked.accounted.accounts
  obtain ⟨events, read, seqs, described⟩ := recorded.gaps_ok
  refine ⟨events, read, fun envelope belongs => ?_⟩
  obtain ⟨gapIff, _⟩ := accounts.gap_iff belongs
  by_cases pending : batchRow envelope ∈ ((System.run external actions).spools agent).tables.batches
  · exact .inl pending
  · by_cases acked : batchRow envelope ∈ ((System.run external actions).spools agent).acknowledged
    · obtain ⟨source, delivered, same⟩ := complete.settled agent _ acked
      have equal := trusted.eq_of_checksum complete.safe ⟨agent, belongs⟩
        (complete.safe.committed source delivered) (congrArg BatchRow.checksum same)
      rw [equal]
      rcases kept source delivered with held | expired
      · exact .inr (.inl held)
      · exact .inr (.inr (.inr expired))
    · obtain ⟨event, member, same⟩ := (mem_gaps_iff seqs _).mp (gapIff.mpr ⟨pending, acked⟩)
      obtain ⟨gap, listed, read⟩ := described event member
      obtain ⟨source, later, reason, records⟩ := recorded.gaps gap listed
      rw [records.readGap_eq] at read
      cases read
      have equal := accounts.envelope_eq records.belongs belongs
        (UInt64.toNat_inj.mp (Int.ofNat_inj.mp same))
      exact .inr (.inr (.inl ⟨_, member, later, reason, by rw [equal]⟩))

theorem delivery_complete_repeatedDelivery :
    ∃ stored : List BatchEnvelope,
      (System.run uploadedExternal repeatedDelivery).control.flowBuckets = stored.flatMap flowRows ∧
      ∃ events,
        Spool.gaps noFaults ((System.run uploadedExternal repeatedDelivery).spools 0).tables =
          .ok events ∧
        ∀ envelope ∈ ((System.run uploadedExternal repeatedDelivery).spools 0).enqueued,
          batchRow envelope ∈
            ((System.run uploadedExternal repeatedDelivery).spools 0).tables.batches ∨
          envelope ∈ stored ∨
          (∃ event ∈ events, ∃ later reason, event = envelope.gapEvent later reason) ∨
          System.Expired uploadedExternal repeatedDelivery envelope := by
  obtain ⟨stored, _, rows, _, agents⟩ :=
    delivery_complete uploadedExternal repeatedDelivery repeatedDelivery_trusted
  exact ⟨stored, rows, agents 0⟩

end FlowObservability
