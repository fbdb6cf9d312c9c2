import FlowObservability.ControlHistory
import FlowObservability.ControlQueries

/-!
Isolation of nodes. The batch id is a field of its own that the checksum does not cover, so
a node can occupy the batch ids of another; nodes in groups that share no batch id do not
affect each other.
-/

namespace FlowObservability

open Table Transaction

def BatchEnvelope.node (envelope : BatchEnvelope) : String := envelope.body.nodeId

def Ledger.restrict (group : String → Bool) (ledger : Ledger) : Ledger where
  stored := ledger.stored.filter fun envelope => group envelope.node
  batchIds := ledger.batchIds.sublist (List.filter_sublist.map _)
  sequences := ledger.sequences.sublist (List.filter_sublist.map _)
  inRange envelope member := ledger.inRange envelope (List.mem_filter.mp member).1

section Restrict

variable {external : External} {group : String → Bool} {ledger kept : Ledger}
variable {limits : ControlLimits} {envelope : BatchEnvelope} {maxAgeSeconds now : UInt64}

theorem Ledger.mem_restrict {stored : BatchEnvelope} :
    stored ∈ (ledger.restrict group).stored ↔ stored ∈ ledger.stored ∧ group stored.node = true := by
  simp [restrict]

theorem Ledger.restrict_prune (cutoff : Nat) :
    (ledger.prune cutoff).restrict group = (ledger.restrict group).prune cutoff := by
  ext1
  simp only [restrict, prune, List.filter_filter, Bool.and_comm]

def Ledger.Apart (ledger : Ledger) (group : String → Bool) (envelope : BatchEnvelope) : Prop :=
  ∀ stored ∈ ledger.stored, stored.batchId = envelope.batchId → group stored.node = true

theorem Ledger.lookup_restrict (apart : kept.Apart group envelope) :
    (kept.restrict group).lookup envelope.batchId = kept.lookup envelope.batchId := by
  cases found : kept.lookup envelope.batchId with
  | none =>
      apply lookup_of_fresh
      intro member
      obtain ⟨stored, belongs, same⟩ := List.mem_map.mp member
      exact fresh_of_lookup found (List.mem_map.mpr ⟨stored, (mem_restrict.mp belongs).1, same⟩)
  | some stored =>
      obtain ⟨member, same⟩ := mem_of_lookup found
      rw [← same]
      exact lookup_of_mem (mem_restrict.mpr ⟨member, apart stored member same⟩)

theorem Ledger.sequence_restrict (inside : group envelope.node = true) :
    envelope.sequence ∈ (kept.restrict group).stored.map (·.sequence) ↔
      envelope.sequence ∈ kept.stored.map (·.sequence) := by
  constructor
  · intro member
    obtain ⟨stored, belongs, same⟩ := List.mem_map.mp member
    exact List.mem_map.mpr ⟨stored, (mem_restrict.mp belongs).1, same⟩
  · intro member
    obtain ⟨stored, belongs, same⟩ := List.mem_map.mp member
    have node : stored.node = envelope.node := congrArg Prod.fst same
    exact List.mem_map.mpr ⟨stored, mem_restrict.mpr ⟨belongs, node ▸ inside⟩, same⟩

theorem Ledger.free_restrict (free : kept.Free envelope) : (kept.restrict group).Free envelope :=
  ⟨fun taken => free.batchId ((List.filter_sublist.map _).subset taken),
    fun taken => free.sequence ((List.filter_sublist.map _).subset taken)⟩

theorem Ledger.restrict_add (free : kept.Free envelope) (inRange : envelope.InRange)
    (inside : group envelope.node = true) :
    (kept.add envelope).restrict group = (kept.restrict group).add envelope := by
  ext1
  rw [add_stored (free_restrict free) inRange]
  simp [restrict, add_stored free inRange, inside]

theorem Ledger.accept_restrict (inside : group envelope.node = true)
    (fresh : envelope.batchId ∉ kept.stored.map (·.batchId)) :
    (kept.restrict group).accept envelope =
      (kept.accept envelope).map fun result => (result.1, result.2.restrict group) := by
  unfold accept
  cases seqFits : integer envelope.body.seq.toNat "batch seq" with
  | error text => rfl
  | ok seq =>
      simp only [anyhow, encoding, ok_bind, sequence_restrict inside]
      split
      · rfl
      · rename_i unused
        cases columns : convertColumns envelope with
        | error error => rfl
        | ok _ =>
            obtain ⟨created, buckets⟩ := convertColumns_ok columns
            have inRange : envelope.InRange := ⟨(integer_ok seqFits).2, created, buckets⟩
            simp only [ok_bind]
            rw [← restrict_add ⟨fresh, unused⟩ inRange inside]
            rfl

theorem Ledger.Apart.prune (apart : ledger.Apart group envelope) (cutoff : Nat) :
    (ledger.prune cutoff).Apart group envelope :=
  fun stored member => apart stored (List.mem_filter.mp member).1

theorem Ledger.ingest_restrict (inside : group envelope.node = true)
    (apart : ledger.Apart group envelope) :
    (ledger.restrict group).ingest maxAgeSeconds envelope now =
      (ledger.ingest maxAgeSeconds envelope now).map fun result =>
        (result.1, result.2.restrict group) := by
  by_cases bound : controlCutoff now maxAgeSeconds < 2 ^ 63
  · have keptApart := apart.prune (controlCutoff now maxAgeSeconds)
    rw [ingest, ingest, pruneExpired_of_lt _ bound, pruneExpired_of_lt _ bound]
    simp only [database, ok_bind, ← restrict_prune]
    rw [lookup_restrict keptApart]
    cases found : (ledger.prune (controlCutoff now maxAgeSeconds)).lookup envelope.batchId with
    | none => exact accept_restrict inside (fresh_of_lookup found)
    | some stored =>
        dsimp only
        split
        · rfl
        · rfl
  · have large := Nat.not_lt.mp bound
    rw [ingest_of_ge large, ingest_of_ge large]
    rfl

theorem Ledger.ingestAt_inside (inside : group envelope.node = true)
    (apart : ledger.Apart group envelope) :
    (ledger.restrict group).ingestAt external limits envelope now =
      ((ledger.ingestAt external limits envelope now).1,
        (ledger.ingestAt external limits envelope now).2.restrict group) := by
  unfold ingestAt
  split
  · rfl
  · split
    · rfl
    · unfold transact
      rw [ingest_restrict inside apart]
      cases ledger.ingest limits.maxAgeSeconds envelope now with
      | ok _ => rfl
      | error _ => rfl

theorem Ledger.ingestAt_outside (outside : group envelope.node = false)
    (recent : ∀ stored ∈ (ledger.restrict group).stored,
      controlCutoff now limits.maxAgeSeconds ≤ stored.body.createdAt.toNat) :
    (ledger.ingestAt external limits envelope now).2.restrict group = ledger.restrict group := by
  have pruned : (ledger.prune (controlCutoff now limits.maxAgeSeconds)).restrict group =
      ledger.restrict group := by
    rw [restrict_prune]
    ext1
    exact List.filter_eq_self.mpr fun stored member => by simpa using recent stored member
  cases outcome : ledger.ingestAt external limits envelope now with
  | mk answer next =>
      cases answer with
      | error error => rw [ingestAt_error outcome]
      | ok status =>
          cases (ingestAt_ok outcome).2.2 with
          | duplicate _ _ _ => exact pruned
          | inserted free inRange =>
              have added : ((ledger.prune (controlCutoff now limits.maxAgeSeconds)).add
                  envelope).restrict group =
                  (ledger.prune (controlCutoff now limits.maxAgeSeconds)).restrict group := by
                ext1
                simp [restrict, add_stored free inRange, outside]
              exact added.trans pruned

theorem Ledger.restrict_ofNode {node : String} (inside : group node = true) :
    (ledger.restrict group).tables.ofNode node = ledger.tables.ofNode node := by
  have own : (ledger.restrict group).stored.filter (fun stored => stored.node == node) =
      ledger.stored.filter fun stored => stored.node == node := by
    rw [restrict, List.filter_filter]
    apply List.filter_congr
    intro stored _
    by_cases same : stored.node = node
    · simp [same, inside]
    · simp [same]
  have rows : ∀ other : Ledger, other.tables.ofNode node = {
      ingestedBatches := (other.stored.filter fun stored => stored.node == node).map ingestedBatch
      flowBuckets := (other.stored.filter fun stored => stored.node == node).flatMap flowRows
    } := by
    intro other
    simp only [ControlTables.ofNode, tables, ControlTables.mk.injEq, List.filter_map]
    refine ⟨rfl, filter_flatMap fun stored _ row belongs => ?_⟩
    obtain ⟨bucket, _, rfl⟩ := List.mem_map.mp belongs
    rfl
  rw [rows, rows, own]

end Restrict

/-- No two envelopes of the run carry one batch id across the border of the group. -/
def Separate (group : String → Bool) (calls : List IngestCall) : Prop :=
  ∀ first ∈ calls, ∀ second ∈ calls, group first.envelope.node = true →
    group second.envelope.node = false → first.envelope.batchId ≠ second.envelope.batchId

def withoutNode (node : String) (calls : List IngestCall) : List IngestCall :=
  calls.filter fun call => call.envelope.node != node

def ControlHistory.answersOf (history : ControlHistory) (node : String) :
    List (Except IngestError IngestStatus) :=
  (history.answers.filter fun answer => answer.1.envelope.node == node).map (·.2)

section TwoRuns

variable {external : External} {group : String → Bool} {node other : String}
variable {calls : List IngestCall} {call : IngestCall} {whole without : ControlHistory}

theorem ControlHistory.answersOf_step (history : ControlHistory) (call : IngestCall)
    (node : String) :
    (history.step external call).answersOf node = history.answersOf node ++
      if call.envelope.node = node then [(call.outcome external history.tables).1] else [] := by
  simpa [answersOf] using history.answers_step external (·.node == node) call

def ControlHistory.HoldsOnly (history : ControlHistory) (calls : List IngestCall)
    (ledger : Ledger) : Prop :=
  history.tables = ledger.tables ∧ ledger.stored ⊆ calls.map (·.envelope)

theorem ControlHistory.HoldsOnly.step {history : ControlHistory} {ledger : Ledger}
    (holds : history.HoldsOnly calls ledger) (external : External)
    (faultless : call.faults = noFaults) :
    (call.outcome external history.tables).1 =
        (ledger.ingestAt external call.limits call.envelope call.now).1 ∧
      (history.step external call).HoldsOnly (calls ++ [call])
        (ledger.ingestAt external call.limits call.envelope call.now).2 := by
  have outcome := ingestAt_noFaults external call.limits call.envelope call.now ledger
  rw [← holds.1, ← faultless] at outcome
  refine ⟨congrArg Prod.fst outcome, congrArg Prod.snd outcome, ?_⟩
  intro stored member
  rw [List.map_append]
  rcases Ledger.mem_ingestAt member with old | ⟨rfl, _⟩
  · exact List.mem_append_left _ (holds.2 old)
  · exact List.mem_append_right _ (by simp)

structure Agree (group : String → Bool) (node : String) (calls : List IngestCall)
    (whole without : ControlHistory) (full rest : Ledger) : Prop where
  wholeHolds : whole.HoldsOnly calls full
  withoutHolds : without.HoldsOnly calls rest
  part : full.restrict group = rest.restrict group
  answers : whole.answersOf node = without.answersOf node

section Steps

variable {full rest : Ledger} (agree : Agree group node calls whole without full rest)
  (faultless : call.faults = noFaults)
include agree faultless

theorem Agree.inside (inside : group call.envelope.node = true)
    (separate : Separate group (calls ++ [call])) :
    ∃ full rest, Agree group node (calls ++ [call]) (whole.step external call)
      (without.step external call) full rest := by
  have apart : ∀ {history : ControlHistory} {ledger : Ledger}, history.HoldsOnly calls ledger →
      ledger.Apart group call.envelope := by
    intro history ledger holds stored member same
    obtain ⟨earlier, belongs, equal⟩ := List.mem_map.mp (holds.2 member)
    cases border : group stored.node with
    | true => rfl
    | false =>
        have different := separate call (by simp) earlier (List.mem_append_left _ belongs) inside
          (equal ▸ border)
        exact absurd (equal ▸ same).symm different
  obtain ⟨wholeAnswer, wholeHolds⟩ := agree.wholeHolds.step external faultless
  obtain ⟨withoutAnswer, withoutHolds⟩ := agree.withoutHolds.step external faultless
  have fullPart : (full.restrict group).ingestAt external call.limits call.envelope call.now = _ :=
    Ledger.ingestAt_inside inside (apart agree.wholeHolds)
  have restPart : (rest.restrict group).ingestAt external call.limits call.envelope call.now = _ :=
    Ledger.ingestAt_inside inside (apart agree.withoutHolds)
  rw [agree.part, restPart] at fullPart
  have answer := congrArg Prod.fst fullPart
  refine ⟨_, _, wholeHolds, withoutHolds, (congrArg Prod.snd fullPart).symm, ?_⟩
  rw [ControlHistory.answersOf_step, ControlHistory.answersOf_step, agree.answers, wholeAnswer,
    withoutAnswer, answer]

theorem Agree.outside (inside : group node = true) (outside : group call.envelope.node = false)
    (recent : ∀ stored ∈ (full.restrict group).stored,
      call.cutoff ≤ stored.body.createdAt.toNat) :
    ∃ full rest, Agree group node (calls ++ [call]) (whole.step external call)
      (without.step external call) full rest := by
  obtain ⟨_, wholeHolds⟩ := agree.wholeHolds.step external faultless
  obtain ⟨_, withoutHolds⟩ := agree.withoutHolds.step external faultless
  have different : call.envelope.node ≠ node := by
    intro same
    rw [same, inside] at outside
    cases outside
  refine ⟨_, _, wholeHolds, withoutHolds, ?_, ?_⟩
  · rw [Ledger.ingestAt_outside outside recent,
      Ledger.ingestAt_outside outside (agree.part ▸ recent), agree.part]
  · simp [ControlHistory.answersOf_step, different, agree.answers]

theorem Agree.removed (inside : group node = true) (outside : group call.envelope.node = false)
    (recent : ∀ stored ∈ (full.restrict group).stored,
      call.cutoff ≤ stored.body.createdAt.toNat) :
    ∃ full rest, Agree group node (calls ++ [call]) (whole.step external call) without full rest := by
  obtain ⟨_, wholeHolds⟩ := agree.wholeHolds.step external faultless
  have different : call.envelope.node ≠ node := by
    intro same
    rw [same, inside] at outside
    cases outside
  have withoutHolds : without.HoldsOnly (calls ++ [call]) rest := by
    refine ⟨agree.withoutHolds.1, fun stored member => ?_⟩
    rw [List.map_append]
    exact List.mem_append_left _ (agree.withoutHolds.2 member)
  refine ⟨_, _, wholeHolds, withoutHolds, ?_, ?_⟩
  · rw [Ledger.ingestAt_outside outside recent, agree.part]
  · simp [ControlHistory.answersOf_step, different, agree.answers]

end Steps

theorem runs_agree (faultless : ∀ call ∈ calls, call.faults = noFaults)
    (unexpired : NothingExpires external calls) (inside : group node = true)
    (outside : group other = false) (separate : Separate group calls) :
    ∃ full rest, Agree group node calls (ControlHistory.run external calls)
      (ControlHistory.run external (withoutNode other calls)) full rest := by
  induction calls using List.reverseRecOn with
  | nil =>
      exact ⟨Ledger.empty, Ledger.empty, ⟨rfl, by simp [Ledger.empty]⟩,
        ⟨rfl, by simp [Ledger.empty]⟩, rfl, rfl⟩
  | append_singleton calls call ih =>
      obtain ⟨full, rest, agree⟩ := ih
        (fun earlier member => faultless earlier (List.mem_append_left _ member))
        (fun before earlier after same => unexpired before earlier (after ++ [call]) (by simp [same]))
        (fun first firstMem second secondMem => separate first (List.mem_append_left _ firstMem)
          second (List.mem_append_left _ secondMem))
      have lastFaultless := faultless call (by simp)
      have recent : ∀ stored ∈ (full.restrict group).stored,
          call.cutoff ≤ stored.body.createdAt.toNat := by
        intro stored member
        have kept := unexpired calls call [] rfl (ingestedBatch stored) (by
          rw [agree.wholeHolds.1]
          exact List.mem_map_of_mem (Ledger.mem_restrict.mp member).1)
        exact Int.ofNat_le.mp kept
      rw [ControlHistory.run, Runs.run_snoc]
      by_cases removed : call.envelope.node = other
      · have same : withoutNode other (calls ++ [call]) = withoutNode other calls := by
          simp [withoutNode, removed]
        rw [same]
        exact agree.removed lastFaultless inside (removed ▸ outside) recent
      · have both : withoutNode other (calls ++ [call]) = withoutNode other calls ++ [call] := by
          simp [withoutNode, removed]
        rw [both, ControlHistory.run, Runs.run_snoc]
        cases border : group call.envelope.node with
        | true => exact agree.inside lastFaultless border separate
        | false => exact agree.outside lastFaultless inside border recent

end TwoRuns

/-- Removing the envelopes of one node changes no answer to another node, and no query about it,
when the two belong to groups of nodes that share no batch id. -/
theorem nodes_isolated (external : External) (calls : List IngestCall)
    (faultless : ∀ call ∈ calls, call.faults = noFaults) (unexpired : NothingExpires external calls)
    (node other : String) (group : String → Bool) (inside : group node = true)
    (outside : group other = false) (separate : Separate group calls) :
    (ControlHistory.run external calls).answersOf node =
        (ControlHistory.run external (withoutNode other calls)).answersOf node ∧
      (∀ capturePoint,
        ControlStore.stats noFaults node capturePoint (ControlHistory.run external calls).tables =
        ControlStore.stats noFaults node capturePoint
          (ControlHistory.run external (withoutNode other calls)).tables) ∧
      (∀ capturePoint «from» «to»,
        ControlStore.series noFaults node capturePoint «from» «to»
          (ControlHistory.run external calls).tables =
        ControlStore.series noFaults node capturePoint «from» «to»
          (ControlHistory.run external (withoutNode other calls)).tables) ∧
      (ControlStore.nodes noFaults (ControlHistory.run external calls).tables).map
          (List.filter fun item => item.nodeId == node) =
        (ControlStore.nodes noFaults
          (ControlHistory.run external (withoutNode other calls)).tables).map
          (List.filter fun item => item.nodeId == node) := by
  obtain ⟨full, rest, agree⟩ := runs_agree faultless unexpired inside outside separate
  have own : full.tables.ofNode node = rest.tables.ofNode node := by
    rw [← Ledger.restrict_ofNode inside, agree.part, Ledger.restrict_ofNode inside]
  rw [agree.wholeHolds.1, agree.withoutHolds.1]
  refine ⟨agree.answers, ?_, ?_, ?_⟩
  · intro capturePoint
    rw [← stats_ofNode, own, stats_ofNode]
  · intro capturePoint «from» «to»
    rw [← series_ofNode, own, series_ofNode]
  · rw [nodes_ofNode full.tables_unsigned, nodes_ofNode rest.tables_unsigned, own]

/-! Node `a` delivers one batch, after node `b` has delivered one under the batch id of it. -/

def genuineBatch (external : External) : BatchEnvelope :=
  BatchEnvelope.new external "a" "boot" 0 100 [webBucket 1] {}

def neighbourBatch (external : External) : BatchEnvelope :=
  BatchEnvelope.new external "b" "boot" 0 100 [webBucket 2] {}

def impostorBatch (external : External) : BatchEnvelope :=
  { neighbourBatch external with batchId := (genuineBatch external).batchId }

def impostorExternal : External := External.ofTable [
    ((genuineBatch (External.ofTable [] [])).body.toJson.render,
      ⟨#[87, 100, 48, 205, 75, 253, 176, 40, 249, 7, 100, 149, 84, 107, 45, 193, 69, 89,
      179, 35, 152, 30, 156, 143, 205, 39, 59, 92, 25, 128, 31, 160], rfl⟩),
    ((neighbourBatch (External.ofTable [] [])).body.toJson.render,
      ⟨#[46, 136, 188, 131, 235, 29, 102, 215, 127, 171, 81, 225, 32, 167, 136, 125, 219,
      239, 67, 128, 12, 17, 12, 176, 214, 150, 155, 240, 89, 14, 51, 149], rfl⟩)] []

def genuineCall : IngestCall := { envelope := genuineBatch impostorExternal, now := 100 }

def impostorCall : IngestCall := { envelope := impostorBatch impostorExternal, now := 100 }

/-- Both envelopes are valid and nothing expires, yet the answer to node `a` depends on `b`. -/
theorem impostor_occupies_batchId :
    (impostorBatch impostorExternal).Valid impostorExternal ∧
      (genuineBatch impostorExternal).Valid impostorExternal ∧
      NothingExpires impostorExternal [impostorCall, genuineCall] ∧
      (ControlHistory.run impostorExternal [impostorCall, genuineCall]).answersOf "a" =
        [.error .conflict] ∧
      (ControlHistory.run impostorExternal
        (withoutNode "b" [impostorCall, genuineCall])).answersOf "a" = [.ok .inserted] := by
  refine ⟨⟨rfl, by decide +kernel⟩, ⟨rfl, by decide +kernel⟩, ?_, by decide +kernel,
    by decide +kernel⟩
  apply nothingExpires_of_zero
  simp [impostorCall, genuineCall, IngestCall.cutoff, controlCutoff]

def neighbourCall : IngestCall := { envelope := neighbourBatch impostorExternal, now := 100 }

theorem nodes_isolated_neighbour :
    let full := ControlHistory.run impostorExternal [neighbourCall, genuineCall]
    let rest := ControlHistory.run impostorExternal (withoutNode "b" [neighbourCall, genuineCall])
    full.tables.flowBuckets.length = 2 ∧ rest.tables.flowBuckets.length = 1 ∧
      full.answersOf "a" = rest.answersOf "a" ∧
      ControlStore.stats noFaults "a" none full.tables =
        ControlStore.stats noFaults "a" none rest.tables := by
  have separate : Separate (· == "a") [neighbourCall, genuineCall] := by
    have different : genuineCall.envelope.batchId ≠ neighbourCall.envelope.batchId := by
      decide +kernel
    intro first firstMem second secondMem inside outside
    simp only [List.mem_cons, List.not_mem_nil, or_false] at firstMem secondMem
    rcases firstMem with rfl | rfl
    · exact absurd inside (by decide)
    · rcases secondMem with rfl | rfl
      · exact different
      · exact absurd outside (by decide)
  have unexpired : NothingExpires impostorExternal [neighbourCall, genuineCall] := by
    apply nothingExpires_of_zero
    simp [neighbourCall, genuineCall, IngestCall.cutoff, controlCutoff]
  obtain ⟨answers, stats, _⟩ := nodes_isolated impostorExternal [neighbourCall, genuineCall]
    (by simp [neighbourCall, genuineCall]) unexpired "a" "b" (· == "a") (by decide) (by decide)
    separate
  exact ⟨by decide +kernel, by decide +kernel, answers, stats none⟩

end FlowObservability
