import FlowObservability.Delivery

/-!
Safety of the delivery protocol in every reachable state: the control store had held an
acknowledged batch before, and it holds one copy of the buckets of each batch.
-/

namespace FlowObservability

open Runs Table Transaction

variable {Agent : Type} {external : External}

theorem ingestRoute_ledger {text : String} {envelope : BatchEnvelope}
    (decoded : external.fromSlice text = some envelope)
    (faults : ControlFaults) (limits : ControlLimits) (clock : Option UInt64) (ledger : Ledger) :
    (∃ now status next, clock = some now ∧
      ledger.ingestAt external limits envelope now = (.ok status, next) ∧
      ingestRoute external faults limits clock text ledger.tables =
        (.ack { batchId := envelope.batchId, status }, next.tables)) ∨
      (∀ ack, (ingestRoute external faults limits clock text ledger.tables).1 ≠ .ack ack) ∧
        (ingestRoute external faults limits clock text ledger.tables).2 = ledger.tables := by
  unfold ingestRoute
  split
  · exact .inr ⟨JsonRejection.lengthLimit.response_ne_ack, rfl⟩
  · rw [decoded]
    cases clock with
    | none => exact .inr ⟨by simp [ControlStore.ingest, unixSeconds, encoding, ingestResponse], rfl⟩
    | some now =>
        simp only [ControlStore.ingest, unixSeconds, encoding]
        rcases ingestAt_refines external faults limits envelope now ledger with
          ideal | ⟨error, _, failed⟩
        · rw [ideal]
          cases outcome : ledger.ingestAt external limits envelope now with
          | mk answer next =>
              cases answer with
              | ok status => exact .inl ⟨now, status, next, rfl, outcome, rfl⟩
              | error error =>
                  refine .inr ⟨fun ack acked => ?_, by rw [Ledger.ingestAt_error outcome]⟩
                  cases (ingestResponse_ack acked).1
        · rw [failed]
          refine .inr ⟨fun ack acked => ?_, rfl⟩
          cases (ingestResponse_ack acked).1

namespace System

def Enqueued (system : System Agent) (envelope : BatchEnvelope) : Prop :=
  ∃ agent, envelope ∈ (system.spools agent).enqueued

def Committed (system : System Agent) (envelope : BatchEnvelope) : Prop :=
  envelope ∈ system.committed

end System

structure ControlTables.Holds (tables : ControlTables) (envelope : BatchEnvelope) : Prop where
  batch : ingestedBatch envelope ∈ tables.ingestedBatches
  flows : tables.flowBuckets.filter (fun row => row.batchId == envelope.batchId) =
    flowRows envelope

theorem Ledger.holds {ledger : Ledger} {envelope : BatchEnvelope}
    (member : envelope ∈ ledger.stored) : ledger.tables.Holds envelope :=
  ⟨List.mem_map_of_mem member, Ledger.flows_of_batch member⟩

namespace System

/-- What the protocol trusts of the hash and of the JSON library, on the envelopes enqueued:
distinct bodies have distinct checksums, and what was written is read back. -/
structure Trusted (external : External) (system : System Agent) : Prop where
  checksums : ∀ first second, system.Enqueued first → system.Enqueued second →
    first.body ≠ second.body → first.checksum ≠ second.checksum
  payload : ∀ envelope, system.Enqueued envelope →
    external.fromSlice (toVec envelope) = some envelope
  upload : ∀ envelope, system.Enqueued envelope →
    external.fromSlice (uploadBody envelope) = some envelope

structure Grows (before after : System Agent) : Prop where
  enqueued : ∀ agent, (before.spools agent).enqueued ⊆ (after.spools agent).enqueued
  requests : before.requests <+: after.requests
  committed : before.committed ⊆ after.committed

/-- A pass holds envelopes of its spool, waits for the response to its first one, and
has an answer only when that one is committed. -/
structure PassSafe (system : System Agent) (state : UploadPass Agent) : Prop where
  queue : ∀ envelope ∈ state.queue, envelope ∈ (system.spools state.agent).enqueued
  waiting : ∀ request, state.phase = .waiting request → ∃ envelope,
    state.queue.head? = some envelope ∧ system.requests[request]? = some (uploadBody envelope)
  answered : state.phase = .answered → ∃ envelope,
    state.queue.head? = some envelope ∧ system.Committed envelope

structure Safe (external : External) (system : System Agent) : Prop where
  accounted : ∀ agent, (system.spools agent).Accounted external
  ledger : ∃ ledger : Ledger, system.control = ledger.tables ∧
    ∀ envelope ∈ ledger.stored, system.Committed envelope
  committed : ∀ envelope, system.Committed envelope → system.Enqueued envelope
  requests : ∀ text ∈ system.requests, ∃ envelope,
    system.Enqueued envelope ∧ text = uploadBody envelope
  responses : ∀ request ack, (request, Response.ack ack) ∈ system.responses → ∃ envelope,
    system.Committed envelope ∧ system.requests[request]? = some (uploadBody envelope)
  passes : ∀ pass state, system.passes pass = some state → system.PassSafe state

section Growth

variable {system next : System Agent} {envelope : BatchEnvelope} {state : UploadPass Agent}

theorem Grows.request (grows : system.Grows next) {index : Nat} {text : String}
    (sent : system.requests[index]? = some text) : next.requests[index]? = some text := by
  obtain ⟨more, same⟩ := grows.requests
  obtain ⟨bound, _⟩ := List.getElem?_eq_some_iff.mp sent
  rw [← same, List.getElem?_append_left bound, sent]

theorem PassSafe.later (safe : system.PassSafe state) (grows : system.Grows next) :
    next.PassSafe state where
  queue envelope member := grows.enqueued _ (safe.queue envelope member)
  waiting request phase := by
    obtain ⟨envelope, first, sent⟩ := safe.waiting request phase
    exact ⟨envelope, first, grows.request sent⟩
  answered phase := by
    obtain ⟨envelope, first, committed⟩ := safe.answered phase
    exact ⟨envelope, first, grows.committed committed⟩

theorem Enqueued.later (enqueued : system.Enqueued envelope) (grows : system.Grows next) :
    next.Enqueued envelope := by
  obtain ⟨agent, member⟩ := enqueued
  exact ⟨agent, grows.enqueued agent member⟩

theorem Trusted.earlier (trusted : next.Trusted external) (grows : system.Grows next) :
    system.Trusted external where
  checksums first second firstMem secondMem :=
    trusted.checksums first second (firstMem.later grows) (secondMem.later grows)
  payload envelope member := trusted.payload envelope (member.later grows)
  upload envelope member := trusted.upload envelope (member.later grows)

end Growth

theorem checksum_of_deleted {tables : SpoolTables} {faults : SpoolFaults}
    {batchId checksum : String} {row : BatchRow} (stored : row ∈ tables.batches)
    (gone : row ∉ (Spool.acknowledge faults batchId checksum tables).2.batches) :
    row.checksum = checksum := by
  by_contra different
  have unmatched : matchesAck batchId checksum row = false := by
    simp [matchesAck, different]
  apply gone
  unfold Spool.acknowledge
  split
  · exact stored
  · dsimp only
    split
    · exact List.mem_filter.mpr ⟨stored, by simp [unmatched]⟩
    · exact List.mem_filter.mpr ⟨stored, by simp [unmatched]⟩

theorem pending_mem {faults : SpoolFaults} {limit : Nat} {tables : SpoolTables}
    {queue : List BatchEnvelope} {envelope : BatchEnvelope}
    (pending : Spool.pending external faults limit tables = .ok queue) (member : envelope ∈ queue) :
    ∃ row ∈ tables.batches, external.fromSlice row.payload = some envelope := by
  unfold Spool.pending at pending
  split at pending
  · cases pending
  · obtain ⟨_, _, pending⟩ := bind_ok pending
    obtain ⟨row, taken, decoded⟩ := mapM_mem pending member
    refine ⟨row, mem_orderBy.mp (List.mem_of_mem_take taken), ?_⟩
    unfold decodePending at decoded
    split at decoded
    · rename_i found
      cases decoded
      exact found
    · cases decoded

section Steps

variable {system : System Agent}

def send (system : System Agent) (text : String) : System Agent :=
  { system with requests := system.requests ++ [text] }

theorem grows_send (text : String) : system.Grows (system.send text) :=
  ⟨fun _ => List.Subset.refl _, List.prefix_append _ _, List.Subset.refl _⟩

theorem Safe.withPasses (safe : system.Safe external) {passes : Nat → Option (UploadPass Agent)}
    (passesSafe : ∀ pass state, passes pass = some state → system.PassSafe state) :
    { system with passes }.Safe external where
  accounted := safe.accounted
  ledger := safe.ledger
  committed := safe.committed
  requests := safe.requests
  responses := safe.responses
  passes pass state found := (passesSafe pass state found).later
    ⟨fun _ => List.Subset.refl _, List.prefix_rfl, List.Subset.refl _⟩

theorem Safe.setPass (safe : system.Safe external) (pass : Nat)
    {state : Option (UploadPass Agent)}
    (passSafe : ∀ value, state = some value → system.PassSafe value) :
    (system.setPass pass state).Safe external := by
  apply safe.withPasses
  intro other value found
  by_cases same : other = pass
  · subst same
    exact passSafe value (by simpa using found)
  · exact safe.passes other value (by simpa [same] using found)

theorem Safe.send (safe : system.Safe external) {envelope : BatchEnvelope}
    (enqueued : system.Enqueued envelope) : (system.send (uploadBody envelope)).Safe external where
  accounted := safe.accounted
  ledger := safe.ledger
  committed := safe.committed
  requests text member := by
    rcases List.mem_append.mp member with old | new
    · exact safe.requests text old
    · exact ⟨envelope, enqueued, List.mem_singleton.mp new⟩
  responses request ack member := by
    obtain ⟨source, committed, sent⟩ := safe.responses request ack member
    exact ⟨source, committed, (grows_send _).request sent⟩
  passes pass state found := (safe.passes pass state found).later (grows_send _)

theorem Trusted.eq_of_upload (trusted : system.Trusted external) {first second : BatchEnvelope}
    (firstMem : system.Enqueued first) (secondMem : system.Enqueued second)
    (same : uploadBody first = uploadBody second) : first = second := by
  have decoded := trusted.upload first firstMem
  rw [same, trusted.upload second secondMem] at decoded
  exact (Option.some.inj decoded).symm

theorem Trusted.eq_of_checksum (trusted : system.Trusted external) (safe : system.Safe external)
    {first second : BatchEnvelope} (firstMem : system.Enqueued first)
    (secondMem : system.Enqueued second) (same : first.checksum = second.checksum) :
    first = second := by
  obtain ⟨firstAgent, firstBelongs⟩ := firstMem
  obtain ⟨secondAgent, secondBelongs⟩ := secondMem
  have firstSealed := (safe.accounted firstAgent).accounts.isSealed first firstBelongs
  have secondSealed := (safe.accounted secondAgent).accounts.isSealed second secondBelongs
  apply firstSealed.eq_of_body secondSealed
  by_contra different
  exact trusted.checksums first second ⟨_, firstBelongs⟩ ⟨_, secondBelongs⟩ different same

theorem Safe.startUpload (safe : system.Safe external) (trusted : system.Trusted external)
    (pass : Nat) (agent : Agent) (faults : SpoolFaults) (limit : Nat) :
    (system.startUpload external pass agent faults limit).Safe external := by
  unfold System.startUpload
  split
  · exact safe
  · split
    · exact safe
    · rename_i queue pending
      apply safe.setPass
      rintro _ ⟨rfl⟩
      refine ⟨?_, by simp, by simp⟩
      intro envelope member
      obtain ⟨row, stored, decoded⟩ := pending_mem pending member
      obtain ⟨source, enqueued, rfl⟩ := (safe.accounted agent).accounts.stored row stored
      have same := (trusted.payload source ⟨agent, enqueued⟩).symm.trans decoded
      exact Option.some.inj same ▸ enqueued

theorem Safe.post (safe : system.Safe external) (pass : Nat) :
    (system.post pass).Safe external := by
  unfold System.post
  split
  · rename_i agent envelope rest acknowledged found
    have queue := (safe.passes pass _ found).queue
    have sent := safe.send ⟨agent, queue envelope List.mem_cons_self⟩
    apply sent.setPass
    rintro _ ⟨rfl⟩
    refine ⟨queue, ?_, by simp⟩
    rintro request ⟨rfl⟩
    exact ⟨envelope, rfl, by simp [System.send]⟩
  · exact safe

theorem eq_of_mem_commits {text : String} {envelope other : BatchEnvelope} {response : Response}
    (decoded : external.fromSlice text = some envelope)
    (member : other ∈ commits external text response) : other = envelope := by
  unfold commits at member
  split at member
  · simpa [decoded, eq_comm] using member
  · simp at member

theorem commits_of_refused {text : String} {response : Response}
    (refused : ∀ ack, response ≠ .ack ack) : commits external text response = [] := by
  unfold commits
  split
  · exact absurd rfl (refused _)
  · rfl

theorem Safe.deliver (safe : system.Safe external) (trusted : system.Trusted external)
    (request : Nat) (faults : ControlFaults) (limits : ControlLimits) (clock : Option UInt64) :
    (system.deliver external request faults limits clock).Safe external := by
  unfold System.deliver
  split
  · exact safe
  · rename_i text sent
    obtain ⟨envelope, enqueued, rfl⟩ := safe.requests text (List.mem_of_getElem? sent)
    obtain ⟨ledger, tables, committed⟩ := safe.ledger
    have decoded := trusted.upload envelope enqueued
    rw [tables]
    dsimp only
    rcases ingestRoute_ledger decoded faults limits clock ledger with
      ⟨now, status, next, _, ingested, routed⟩ | ⟨refused, unchanged⟩
    · obtain ⟨added, _, _⟩ := Ledger.ingestAt_members ingested
      have known : envelope ∈ system.committed ∨ status = .inserted := by
        cases (Ledger.ingestAt_ok ingested).2.2 with
        | duplicate member batchId checksum =>
            have before := committed _ (List.mem_filter.mp member).1
            have same := trusted.eq_of_checksum safe (safe.committed _ before) enqueued checksum
            exact .inl (same ▸ before)
        | inserted free inRange => exact .inr rfl
      have inserts : status = .inserted →
          commits external (uploadBody envelope) (.ack { batchId := envelope.batchId, status }) =
            [envelope] := by
        rintro rfl
        simp [commits, decoded]
      rw [routed]
      constructor
      · exact safe.accounted
      · refine ⟨next, rfl, fun other held => ?_⟩
        rcases added other held with old | ⟨rfl, inserted⟩
        · exact List.mem_append_left _ (committed other old)
        · exact List.mem_append_right _ (inserts inserted ▸ List.mem_singleton_self _)
      · intro other member
        rcases List.mem_append.mp member with old | new
        · exact safe.committed other old
        · have same := eq_of_mem_commits decoded new
          exact same ▸ enqueued
      · exact safe.requests
      · intro answered ack member
        rcases List.mem_append.mp member with old | new
        · obtain ⟨source, before, text⟩ := safe.responses answered ack old
          exact ⟨source, List.mem_append_left _ before, text⟩
        · simp only [List.mem_singleton, Prod.mk.injEq] at new
          obtain ⟨rfl, _⟩ := new
          refine ⟨envelope, ?_, sent⟩
          rcases known with before | inserted
          · exact List.mem_append_left _ before
          · exact List.mem_append_right _ (inserts inserted ▸ List.mem_singleton_self _)
      · intro pass state found
        refine (safe.passes pass state found).later
          ⟨fun _ => List.Subset.refl _, List.prefix_rfl, ?_⟩
        exact List.subset_append_left _ _
    · rw [unchanged, commits_of_refused refused, List.append_nil]
      refine ⟨safe.accounted, ⟨ledger, rfl, committed⟩, safe.committed, safe.requests, ?_, ?_⟩
      · intro answered ack member
        rcases List.mem_append.mp member with old | new
        · exact safe.responses answered ack old
        · simp only [List.mem_singleton, Prod.mk.injEq] at new
          exact absurd new.2.symm (refused ack)
      · intro pass state found
        exact (safe.passes pass state found).later
          ⟨fun _ => List.Subset.refl _, List.prefix_rfl, List.Subset.refl _⟩

theorem Safe.receive (safe : system.Safe external) (trusted : system.Trusted external)
    (pass response : Nat) :
    (system.receive pass response).Safe external := by
  unfold System.receive
  split
  · rename_i agent envelope rest request acknowledged answered response found arrived
    split
    · rename_i same
      subst same
      split
      · rename_i accepted
        apply safe.setPass
        rintro _ ⟨rfl⟩
        refine ⟨(safe.passes pass _ found).queue, by simp, fun _ => ⟨envelope, rfl, ?_⟩⟩
        obtain ⟨ack, rfl, _⟩ := readAck_ok accepted
        obtain ⟨source, committed, sourceSent⟩ :=
          safe.responses answered ack (List.mem_of_getElem? arrived)
        obtain ⟨first, head, sent⟩ := (safe.passes pass _ found).waiting answered rfl
        cases head
        have belongs := (safe.passes pass _ found).queue envelope List.mem_cons_self
        have texts := Option.some.inj (sourceSent.symm.trans sent)
        rw [← trusted.eq_of_upload (safe.committed source committed) ⟨agent, belongs⟩ texts]
        exact committed
      · exact safe.setPass pass (by simp)
    · exact safe
  · exact safe

section Agents

variable [DecidableEq Agent]

theorem grows_setSpool {agent : Agent} {history : SpoolHistory}
    (more : (system.spools agent).enqueued ⊆ history.enqueued) :
    system.Grows (system.setSpool agent history) where
  enqueued other := by
    by_cases same : other = agent
    · subst same
      simpa [setSpool] using more
    · simp [setSpool, same]
  requests := List.prefix_rfl
  committed := List.Subset.refl _

theorem Safe.setSpool (safe : system.Safe external) {agent : Agent} {history : SpoolHistory}
    (accounted : history.Accounted external)
    (more : (system.spools agent).enqueued ⊆ history.enqueued) :
    (system.setSpool agent history).Safe external where
  accounted other := by
    by_cases same : other = agent
    · subst same
      simpa [System.setSpool] using accounted
    · simpa [System.setSpool, same] using safe.accounted other
  ledger := safe.ledger
  committed envelope member := (safe.committed envelope member).later (grows_setSpool more)
  requests text member := by
    obtain ⟨envelope, enqueued, same⟩ := safe.requests text member
    exact ⟨envelope, enqueued.later (grows_setSpool more), same⟩
  responses := safe.responses
  passes pass state found := (safe.passes pass state found).later (grows_setSpool more)

omit [DecidableEq Agent] in
theorem Safe.deleted (safe : system.Safe external) (trusted : system.Trusted external)
    {pass : Nat} {agent : Agent} {envelope : BatchEnvelope} {rest : List BatchEnvelope}
    {acknowledged : Nat} (found : system.passes pass =
      some { agent, queue := envelope :: rest, phase := .answered, acknowledged })
    {faults : SpoolFaults} {row : BatchRow} (stored : row ∈ (system.spools agent).tables.batches)
    (gone : row ∉ ((system.spools agent).acknowledge faults envelope.batchId
      envelope.checksum).tables.batches) :
    row = batchRow envelope ∧ envelope ∈ (system.spools agent).enqueued ∧
      system.Committed envelope := by
  have passSafe := safe.passes pass _ found
  obtain ⟨first, head, committed⟩ := passSafe.answered rfl
  cases head
  have belongs := passSafe.queue envelope List.mem_cons_self
  rw [SpoolHistory.tables_acknowledge] at gone
  have checksum := checksum_of_deleted stored gone
  obtain ⟨source, enqueued, rfl⟩ := (safe.accounted agent).accounts.stored row stored
  have same := trusted.eq_of_checksum safe ⟨agent, enqueued⟩ ⟨agent, belongs⟩ checksum
  exact ⟨congrArg batchRow same, belongs, committed⟩

theorem Safe.acknowledge (safe : system.Safe external) (pass : Nat) (faults : SpoolFaults) :
    (system.acknowledge pass faults).Safe external := by
  unfold System.acknowledge
  split
  · rename_i agent envelope rest acknowledged found
    have passSafe := safe.passes pass _ found
    have kept : ∀ other ∈ rest, other ∈ (system.spools agent).enqueued :=
      fun other member => passSafe.queue other (List.mem_cons_of_mem _ member)
    have accounted := (safe.accounted agent).acknowledge faults envelope.batchId envelope.checksum
    have same : ((system.spools agent).acknowledge faults envelope.batchId
        envelope.checksum).enqueued = (system.spools agent).enqueued :=
      SpoolHistory.enqueued_acknowledge ..
    have spoolSafe := safe.setSpool accounted (by rw [same]; exact List.Subset.refl _)
    apply spoolSafe.setPass pass
    intro value next
    split at next
    · cases next
      refine ⟨fun other member => ?_, by simp, by simp⟩
      have belongs := kept other member
      rw [← same] at belongs
      simpa [System.setSpool] using belongs
    · cases next
  · exact safe

theorem Safe.crash (safe : system.Safe external) (agent : Agent) :
    (system.crash agent).Safe external := by
  have closed : { system.spools agent with limits := none : SpoolHistory }.Accounted external :=
    ⟨(safe.accounted agent).accounts, (safe.accounted agent).counted⟩
  apply (safe.setSpool closed (List.Subset.refl _)).withPasses
  intro pass state found
  obtain ⟨running, _⟩ := Option.filter_eq_some_iff.mp found
  exact (safe.passes pass state running).later (grows_setSpool (List.Subset.refl _))

theorem grows_step (action : Action Agent) : system.Grows (system.step external action) := by
  have same : system.Grows system :=
    ⟨fun _ => List.Subset.refl _, List.prefix_rfl, List.Subset.refl _⟩
  cases action with
  | openSpool agent faults limits => exact grows_setSpool (SpoolHistory.enqueued_step _)
  | enqueue agent faults args => exact grows_setSpool (SpoolHistory.enqueued_step _)
  | startUpload pass agent faults limit =>
      simp only [System.step, System.startUpload]
      split
      · exact same
      · split
        · exact same
        · exact ⟨same.enqueued, same.requests, same.committed⟩
  | post pass =>
      simp only [System.step, System.post]
      split
      · exact ⟨same.enqueued, List.prefix_append _ _, same.committed⟩
      · exact same
  | deliver request faults limits clock =>
      simp only [System.step, System.deliver]
      split
      · exact same
      · exact ⟨same.enqueued, same.requests, List.subset_append_left _ _⟩
  | receive pass response =>
      simp only [System.step, System.receive]
      split
      · split
        · split
          · exact ⟨same.enqueued, same.requests, same.committed⟩
          · exact ⟨same.enqueued, same.requests, same.committed⟩
        · exact same
      · exact same
  | acknowledge pass faults =>
      simp only [System.step, System.acknowledge]
      split
      · rename_i agent envelope rest acknowledged found
        have kept : ((system.spools agent).acknowledge faults envelope.batchId
            envelope.checksum).enqueued = (system.spools agent).enqueued :=
      SpoolHistory.enqueued_acknowledge ..
        exact ⟨(grows_setSpool (by rw [kept]; exact List.Subset.refl _)).enqueued, List.prefix_rfl,
          List.Subset.refl _⟩
      · exact same
  | abandon pass => exact ⟨same.enqueued, same.requests, same.committed⟩
  | crash agent =>
      have closed : system.Grows (system.setSpool agent { system.spools agent with limits := none }) :=
        grows_setSpool (List.Subset.refl _)
      exact ⟨closed.enqueued, List.prefix_rfl, List.Subset.refl _⟩

theorem Safe.step (safe : system.Safe external) (action : Action Agent)
    (trusted : (system.step external action).Trusted external) :
    (system.step external action).Safe external := by
  have before := trusted.earlier (grows_step action)
  cases action with
  | openSpool agent faults limits =>
      exact safe.setSpool ((safe.accounted agent).step _) (SpoolHistory.enqueued_step _)
  | enqueue agent faults args =>
      exact safe.setSpool ((safe.accounted agent).step _) (SpoolHistory.enqueued_step _)
  | startUpload pass agent faults limit => exact safe.startUpload before pass agent faults limit
  | post pass => exact safe.post pass
  | deliver request faults limits clock => exact safe.deliver before request faults limits clock
  | receive pass response => exact safe.receive before pass response
  | acknowledge pass faults => exact safe.acknowledge pass faults
  | abandon pass => exact safe.setPass pass (by simp)
  | crash agent => exact safe.crash agent

omit [DecidableEq Agent] in
theorem safe_initial : ({} : System Agent).Safe external where
  accounted agent := ⟨accounts_initial external, rfl⟩
  ledger := ⟨Ledger.empty, rfl, by simp [Ledger.empty]⟩
  committed := by simp [Committed]
  requests := by simp
  responses := by simp
  passes := by simp

theorem run_safe {actions : List (Action Agent)}
    (trusted : (System.run external actions).Trusted external) :
    (System.run external actions).Safe external :=
  run_invariant_under safe_initial (fun _ action later => later.earlier (grows_step action))
    (fun _ action later safe => safe.step action later) trusted

theorem quiet_step (external : External) (system : System Agent) {action : Action Agent}
    (quiet : ∀ request faults limits clock, action ≠ .deliver request faults limits clock) :
    (system.step external action).control = system.control ∧
      (system.step external action).committed = system.committed := by
  cases action with
  | openSpool agent faults limits => exact ⟨rfl, rfl⟩
  | enqueue agent faults args => exact ⟨rfl, rfl⟩
  | startUpload pass agent faults limit =>
      simp only [System.step, System.startUpload]
      split
      · exact ⟨rfl, rfl⟩
      · split
        · exact ⟨rfl, rfl⟩
        · exact ⟨rfl, rfl⟩
  | post pass =>
      simp only [System.step, System.post]
      split
      · exact ⟨rfl, rfl⟩
      · exact ⟨rfl, rfl⟩
  | deliver request faults limits clock => exact absurd rfl (quiet request faults limits clock)
  | receive pass response =>
      simp only [System.step, System.receive]
      split
      · split
        · split
          · exact ⟨rfl, rfl⟩
          · exact ⟨rfl, rfl⟩
        · exact ⟨rfl, rfl⟩
      · exact ⟨rfl, rfl⟩
  | acknowledge pass faults =>
      simp only [System.step, System.acknowledge]
      split
      · exact ⟨rfl, rfl⟩
      · exact ⟨rfl, rfl⟩
  | abandon pass => exact ⟨rfl, rfl⟩
  | crash agent => exact ⟨rfl, rfl⟩

theorem Safe.committed_step (safe : system.Safe external) {action : Action Agent}
    (trusted : (system.step external action).Trusted external) {envelope : BatchEnvelope}
    (committed : (system.step external action).Committed envelope) :
    system.Committed envelope ∨ (system.step external action).control.Holds envelope := by
  by_cases delivers : ∃ request faults limits clock, action = .deliver request faults limits clock
  · obtain ⟨request, faults, limits, clock, rfl⟩ := delivers
    have before := trusted.earlier (grows_step _)
    revert committed
    simp only [System.step, System.deliver, Committed]
    split
    · exact .inl
    · rename_i text sent
      obtain ⟨source, enqueued, rfl⟩ := safe.requests text (List.mem_of_getElem? sent)
      obtain ⟨ledger, tables, _⟩ := safe.ledger
      have decoded := before.upload source enqueued
      rw [tables]
      rcases ingestRoute_ledger decoded faults limits clock ledger with
        ⟨now, status, next, _, ingested, routed⟩ | ⟨refused, unchanged⟩
      · obtain ⟨_, _, inserts⟩ := Ledger.ingestAt_members ingested
        rw [routed]
        intro committed
        rcases List.mem_append.mp committed with old | new
        · exact .inl old
        · have same := eq_of_mem_commits decoded new
          cases status with
          | inserted => exact .inr (Ledger.holds (same.symm ▸ inserts rfl))
          | duplicate => simp [commits] at new
      · rw [commits_of_refused refused, List.append_nil]
        exact .inl
  · obtain ⟨_, same⟩ := quiet_step external system fun request faults limits clock equal =>
      delivers ⟨request, faults, limits, clock, equal⟩
    exact .inl (by rwa [Committed, same] at committed)

theorem run_committed {actions : List (Action Agent)} {envelope : BatchEnvelope}
    (trusted : (System.run external actions).Trusted external)
    (committed : (System.run external actions).Committed envelope) :
    ∃ before, before <+: actions ∧ (System.run external before).control.Holds envelope := by
  induction actions using List.reverseRecOn with
  | nil => simp [Committed, System.run] at committed
  | append_singleton actions action ih =>
      have last : System.run external (actions ++ [action]) =
          (System.run external actions).step external action := run_snoc action
      rw [last] at trusted committed
      have earlier := trusted.earlier (grows_step action)
      rcases (run_safe earlier).committed_step trusted committed with old | holds
      · obtain ⟨before, within, holds⟩ := ih earlier old
        exact ⟨before, within.trans (List.prefix_append _ _), holds⟩
      · exact ⟨actions ++ [action], List.prefix_rfl, last ▸ holds⟩

theorem run_deleted {earlier : List (Action Agent)} {pass : Nat} {faults : SpoolFaults}
    (trusted : (System.run external earlier).Trusted external) {agent : Agent} {row : BatchRow}
    (stored : row ∈ ((System.run external earlier).spools agent).tables.batches)
    (gone : row ∉ ((System.run external (earlier ++ [.acknowledge pass faults])).spools
      agent).tables.batches) :
    ∃ envelope ∈ ((System.run external earlier).spools agent).enqueued, row = batchRow envelope ∧
      ∃ before, before <+: earlier ∧ (System.run external before).control.Holds envelope := by
  have last : System.run external (earlier ++ [.acknowledge pass faults]) =
      (System.run external earlier).acknowledge pass faults := run_snoc _
  rw [last, System.acknowledge] at gone
  split at gone
  · rename_i other envelope rest acknowledged found
    by_cases same : agent = other
    · subst same
      have deleted : row ∉ (((System.run external earlier).spools agent).acknowledge faults
          envelope.batchId envelope.checksum).tables.batches := by
        simpa [System.setSpool, System.setPass] using gone
      obtain ⟨rfl, belongs, committed⟩ := (run_safe trusted).deleted trusted found stored deleted
      exact ⟨envelope, belongs, rfl, run_committed trusted committed⟩
    · exact absurd stored (by simpa [System.setSpool, System.setPass, same] using gone)
  · exact absurd stored gone

theorem run_trusted {earlier later : List (Action Agent)}
    (trusted : (System.run external (earlier ++ later)).Trusted external) :
    (System.run external earlier).Trusted external :=
  run_earlier (fun _ action after => after.earlier (grows_step action)) trusted

end Agents

end Steps

end System

/-- In every run of the protocol, whatever the network and the crashes do: a row that an
acknowledgement deletes is that of an envelope which the control store held after a part of the run
before, and the control store is one copy of committed envelopes that all have different sequence
identities. -/
theorem delivery_safe [DecidableEq Agent] (external : External) (actions : List (Action Agent))
    (trusted : (System.run external actions).Trusted external) :
    (∀ earlier pass faults later, actions = earlier ++ .acknowledge pass faults :: later →
      ∀ agent, ∀ row ∈ ((System.run external earlier).spools agent).tables.batches,
        row ∉ ((System.run external (earlier ++ [.acknowledge pass faults])).spools
          agent).tables.batches →
        ∃ envelope ∈ ((System.run external earlier).spools agent).enqueued,
          row = batchRow envelope ∧ ∃ before, before <+: earlier ∧
            (System.run external before).control.Holds envelope) ∧
      ∃ stored : List BatchEnvelope, (stored.map (·.sequence)).Nodup ∧
        (System.run external actions).control.ingestedBatches = stored.map ingestedBatch ∧
        (System.run external actions).control.flowBuckets = stored.flatMap flowRows ∧
        ∀ envelope ∈ stored, envelope ∈ (System.run external actions).committed := by
  constructor
  · rintro earlier pass faults later rfl agent row stored gone
    exact System.run_deleted (System.run_trusted trusted) stored gone
  · obtain ⟨ledger, tables, committed⟩ := (System.run_safe trusted).ledger
    exact ⟨ledger.stored, ledger.sequences, by rw [tables]; rfl, by rw [tables]; rfl, committed⟩

/-! One agent uploads the first of two batches in two passes at once, and the network delivers it
three times. -/

def uploadedArgs (packets : UInt64) : EnqueueArgs where
  nodeId := "u"
  bootId := "b"
  createdAt := 100
  buckets := [webBucket packets]
  diagnostics := {}

def uploadedDigests : List (String × Vector UInt8 32) := [
  (((uploadedArgs 1).envelope (External.ofTable [] []) 0).body.toJson.render,
    ⟨#[1, 160, 88, 29, 11, 222, 14, 85, 233, 133, 53, 72, 189, 122, 68, 196, 235, 122, 67, 40,
      239, 9, 53, 141, 40, 142, 50, 153, 99, 214, 142, 109], rfl⟩),
  (((uploadedArgs 2).envelope (External.ofTable [] []) 1).body.toJson.render,
    ⟨#[69, 18, 179, 243, 134, 83, 62, 199, 76, 59, 35, 32, 155, 26, 59, 177, 163, 59, 253, 15,
      169, 72, 213, 53, 201, 28, 231, 15, 146, 220, 34, 19], rfl⟩)]

def uploadedBatch : BatchEnvelope :=
  (uploadedArgs 1).envelope (External.ofTable uploadedDigests []) 0

def waitingBatch : BatchEnvelope :=
  (uploadedArgs 2).envelope (External.ofTable uploadedDigests []) 1

def uploadedExternal : External := External.ofTable uploadedDigests [
  (toVec uploadedBatch, uploadedBatch),
  (uploadBody uploadedBatch, uploadedBatch),
  (toVec waitingBatch, waitingBatch),
  (uploadBody waitingBatch, waitingBatch)]

def repeatedUpload : List (Action (Fin 1)) := [
  .openSpool 0 noFaults { maxPayloadBytes := 10000, maxAgeSeconds := 1000 },
  .enqueue 0 noFaults (uploadedArgs 1),
  .enqueue 0 noFaults (uploadedArgs 2),
  .startUpload 0 0 noFaults 10,
  .startUpload 1 0 noFaults 10,
  .post 0,
  .post 1,
  .deliver 0 noFaults {} (some 100),
  .deliver 0 noFaults {} (some 100),
  .deliver 1 noFaults {} (some 100),
  .receive 0 1]

def repeatedDelivery : List (Action (Fin 1)) :=
  repeatedUpload ++ .acknowledge 0 noFaults :: [.receive 1 2, .acknowledge 1 noFaults]

theorem uploaded_texts : ∀ envelope ∈ [uploadedBatch, waitingBatch],
    uploadedExternal.fromSlice (toVec envelope) = some envelope ∧
      uploadedExternal.fromSlice (uploadBody envelope) = some envelope := by
  decide +kernel

theorem uploaded_checksums : uploadedBatch.checksum ≠ waitingBatch.checksum := by
  decide +kernel

theorem repeatedDelivery_enqueued {envelope : BatchEnvelope}
    (enqueued : (System.run uploadedExternal repeatedDelivery).Enqueued envelope) :
    envelope ∈ [uploadedBatch, waitingBatch] := by
  have both : ∀ agent, ((System.run uploadedExternal repeatedDelivery).spools agent).enqueued =
      [uploadedBatch, waitingBatch] := by
    decide +kernel
  obtain ⟨agent, member⟩ := enqueued
  rwa [both agent] at member

theorem repeatedDelivery_trusted :
    (System.run uploadedExternal repeatedDelivery).Trusted uploadedExternal := by
  constructor
  · intro first second firstMem secondMem different
    have firstIs := repeatedDelivery_enqueued firstMem
    have secondIs := repeatedDelivery_enqueued secondMem
    simp only [List.mem_cons, List.not_mem_nil, or_false] at firstIs secondIs
    rcases firstIs with rfl | rfl
    · rcases secondIs with rfl | rfl
      · exact absurd rfl different
      · exact uploaded_checksums
    · rcases secondIs with rfl | rfl
      · exact uploaded_checksums.symm
      · exact absurd rfl different
  · exact fun envelope member => (uploaded_texts envelope (repeatedDelivery_enqueued member)).1
  · exact fun envelope member => (uploaded_texts envelope (repeatedDelivery_enqueued member)).2

theorem repeatedDelivery_deletes :
    batchRow uploadedBatch ∈
        ((System.run uploadedExternal repeatedUpload).spools 0).tables.batches ∧
      batchRow uploadedBatch ∉ ((System.run uploadedExternal
        (repeatedUpload ++ [.acknowledge 0 noFaults])).spools 0).tables.batches := by
  decide +kernel

theorem delivery_safe_repeatedDelivery :
    (∃ envelope ∈ ((System.run uploadedExternal repeatedUpload).spools 0).enqueued,
      batchRow uploadedBatch = batchRow envelope ∧ ∃ before, before <+: repeatedUpload ∧
        (System.run uploadedExternal before).control.Holds envelope) ∧
      ∃ stored : List BatchEnvelope, (stored.map (·.sequence)).Nodup ∧
        (System.run uploadedExternal repeatedDelivery).control.ingestedBatches =
          stored.map ingestedBatch ∧
        (System.run uploadedExternal repeatedDelivery).control.flowBuckets =
          stored.flatMap flowRows ∧
        ∀ envelope ∈ stored,
          envelope ∈ (System.run uploadedExternal repeatedDelivery).committed := by
  obtain ⟨acknowledged, stored⟩ :=
    delivery_safe uploadedExternal repeatedDelivery repeatedDelivery_trusted
  obtain ⟨held, gone⟩ := repeatedDelivery_deletes
  exact ⟨acknowledged repeatedUpload 0 noFaults _ rfl 0 _ held gone, stored⟩

end FlowObservability
