import FlowObservability.ControlHistory
import FlowObservability.SpoolHistory

/-!
Conflicts between spools. A spool numbers its batches by a counter of its own, so two
spools with one node id and one boot id claim the same identities; spools that never give
one identity to different batches are never answered with a conflict.
-/

namespace FlowObservability

open Table Transaction

/-- Envelopes of which any two differ in both identities the store checks. -/
structure Distinguished (family : BatchEnvelope → Prop) : Prop where
  batchId : ∀ first second, family first → family second → first.batchId = second.batchId →
    first.checksum = second.checksum
  sequence : ∀ first second, family first → family second → first.sequence = second.sequence →
    first.batchId = second.batchId

section Conflicts

theorem encoding_avoids_conflict {α : Type} (result : Except AnyhowError α) :
    Avoids .conflict (encoding result) := by
  cases result <;> simp [encoding, Avoids]

variable {external : External} {family : BatchEnvelope → Prop} {ledger : Ledger}

theorem Ledger.ingest_conflict {maxAgeSeconds now : UInt64} {envelope : BatchEnvelope}
    (result : ledger.ingest maxAgeSeconds envelope now = .error .conflict) :
    ∃ stored ∈ ledger.stored,
      stored.batchId = envelope.batchId ∧ stored.checksum ≠ envelope.checksum ∨
        stored.sequence = envelope.sequence ∧ stored.batchId ≠ envelope.batchId := by
  have bound : controlCutoff now maxAgeSeconds < 2 ^ 63 := by
    by_contra large
    rw [ingest_of_ge (Nat.not_lt.mp large)] at result
    cases result
  by_cases known : envelope.batchId ∈
      (ledger.prune (controlCutoff now maxAgeSeconds)).stored.map (·.batchId)
  · obtain ⟨stored, member, same⟩ := List.mem_map.mp known
    rw [ingest_known bound member same] at result
    split at result
    · cases result
    · rename_i different
      exact ⟨stored, (List.mem_filter.mp member).1, .inl ⟨same, different⟩⟩
  · by_cases taken : envelope.sequence ∈
        (ledger.prune (controlCutoff now maxAgeSeconds)).stored.map (·.sequence)
    · obtain ⟨stored, member, same⟩ := List.mem_map.mp taken
      refine ⟨stored, (List.mem_filter.mp member).1, .inr ⟨same, ?_⟩⟩
      exact fun equal => known (List.mem_map.mpr ⟨stored, member, equal⟩)
    · refine absurd result ?_
      rw [ingest, pruneExpired_of_lt ledger bound]
      simp only [database, ok_bind, lookup_of_fresh known, accept]
      refine (encoding_avoids_conflict _).bind fun _ _ => ?_
      rw [if_neg taken]
      exact (encoding_avoids_conflict _).bind fun _ _ => avoids_pure _

theorem Distinguished.ingestAt_avoids (distinguished : Distinguished family)
    (within : ∀ stored ∈ ledger.stored, family stored) {envelope : BatchEnvelope}
    (member : family envelope) (external : External) (limits : ControlLimits) (now : UInt64) :
    Avoids .conflict (ledger.ingestAt external limits envelope now).1 := by
  unfold Ledger.ingestAt
  split
  · simp [Avoids]
  · split
    · simp [Avoids]
    · apply transact_avoids
      intro conflict
      obtain ⟨stored, belongs, clash⟩ := Ledger.ingest_conflict conflict
      rcases clash with ⟨same, different⟩ | ⟨same, different⟩
      · exact different (distinguished.batchId stored envelope (within stored belongs) member same)
      · exact different (distinguished.sequence stored envelope (within stored belongs) member same)

def ControlHistory.Peaceful (family : BatchEnvelope → Prop) (history : ControlHistory) : Prop :=
  (∃ ledger : Ledger, history.tables = ledger.tables ∧ ∀ stored ∈ ledger.stored, family stored) ∧
    ∀ answer ∈ history.answers, answer.2 ≠ .error .conflict

theorem ControlHistory.Peaceful.step {history : ControlHistory} {call : IngestCall}
    (peaceful : history.Peaceful family) (distinguished : Distinguished family)
    (member : family call.envelope) : (history.step external call).Peaceful family := by
  obtain ⟨⟨ledger, tables, within⟩, answers⟩ := peaceful
  have avoids := distinguished.ingestAt_avoids within member external call.limits call.now
  have answered : (∃ next : Ledger, (call.outcome external history.tables).2 = next.tables ∧
      ∀ stored ∈ next.stored, family stored) ∧
      (call.outcome external history.tables).1 ≠ .error .conflict := by
    rcases call.outcome_refines external tables with ideal | ⟨error, ⟨cause, _, same⟩, failed⟩
    · refine ⟨⟨_, congrArg Prod.snd ideal, ?_⟩, fun conflict => avoids ?_⟩
      · intro stored belongs
        rcases Ledger.mem_ingestAt belongs with old | ⟨rfl, _⟩
        · exact within stored old
        · exact member
      · exact (congrArg Prod.fst ideal).symm.trans conflict
    · refine ⟨⟨ledger, (congrArg Prod.snd failed).trans tables, within⟩, ?_⟩
      intro conflict
      have both := (congrArg Prod.fst failed).symm.trans conflict
      simp [same] at both
  refine ⟨answered.1, ?_⟩
  intro answer belongs
  rcases List.mem_append.mp belongs with old | new
  · exact answers answer old
  · exact List.mem_singleton.mp new ▸ answered.2

theorem run_peaceful (external : External) {calls : List IngestCall}
    (distinguished : Distinguished family) (members : ∀ call ∈ calls, family call.envelope) :
    (ControlHistory.run external calls).Peaceful family := by
  apply Runs.run_invariant
  · exact ⟨⟨Ledger.empty, rfl, by simp [Ledger.empty]⟩, by simp⟩
  · exact fun history call member peaceful => peaceful.step distinguished (members call member)

end Conflicts

section Spools

variable {Agent : Type} {external : External} {spools : Agent → List SpoolCall}

def Enqueued (external : External) (spools : Agent → List SpoolCall) (envelope : BatchEnvelope) :
    Prop :=
  ∃ agent, envelope ∈ (SpoolHistory.run external (spools agent)).enqueued

def IdentitiesApart (external : External) (spools : Agent → List SpoolCall) : Prop :=
  ∀ first second, first ≠ second →
    ∀ earlier ∈ (SpoolHistory.run external (spools first)).enqueued,
    ∀ later ∈ (SpoolHistory.run external (spools second)).enqueued,
      earlier.sequence = later.sequence → earlier = later

def PrefixesApart (external : External) (spools : Agent → List SpoolCall) : Prop :=
  ∀ first second, Enqueued external spools first → Enqueued external spools second →
    first.body ≠ second.body → checksumPrefix first.checksum ≠ checksumPrefix second.checksum

theorem enqueued_sealed {envelope : BatchEnvelope} (enqueued : Enqueued external spools envelope) :
    envelope.Sealed external := by
  obtain ⟨agent, member⟩ := enqueued
  exact (SpoolHistory.run_accounted external (spools agent)).accounts.isSealed envelope member

theorem enqueued_distinguished (identities : IdentitiesApart external spools)
    (prefixes : PrefixesApart external spools) : Distinguished (Enqueued external spools) where
  batchId first second firstMem secondMem same := by
    have firstSealed := enqueued_sealed firstMem
    have secondSealed := enqueued_sealed secondMem
    obtain ⟨_, digits⟩ := firstSealed.batchId_fields secondSealed same
    by_cases body : first.body = second.body
    · rw [firstSealed.eq_of_body secondSealed body]
    · exact absurd digits (prefixes first second firstMem secondMem body)
  sequence first second firstMem secondMem same := by
    obtain ⟨firstAgent, firstBelongs⟩ := firstMem
    obtain ⟨secondAgent, secondBelongs⟩ := secondMem
    by_cases agent : firstAgent = secondAgent
    · subst agent
      have accounts := (SpoolHistory.run_accounted external (spools firstAgent)).accounts
      rw [accounts.envelope_eq firstBelongs secondBelongs (congrArg (·.2.2) same)]
    · rw [identities firstAgent secondAgent agent first firstBelongs second secondBelongs same]

end Spools

/-- Spools that never give one identity to different batches are never answered with a conflict,
whatever the order, the repetitions and the times of their uploads. -/
theorem honest_agents_never_conflict {Agent : Type} (external : External)
    (spools : Agent → List SpoolCall) (calls : List IngestCall)
    (sent : ∀ call ∈ calls, Enqueued external spools call.envelope)
    (prefixes : PrefixesApart external spools) (identities : IdentitiesApart external spools) :
    ∀ answer ∈ (ControlHistory.run external calls).answers, answer.2 ≠ .error .conflict :=
  (run_peaceful external (enqueued_distinguished identities prefixes) sent).2

/-! Two captures of one host, each with its own spool, both at their first batch. -/

def captureArgs (node capturePoint : String) : EnqueueArgs where
  nodeId := node
  bootId := "boot"
  createdAt := 100
  buckets := [{
    bucketStart := 100
    key := {
      capturePoint
      direction := .egress
      protocol := .tcp
      sourceIp := .v4 10 0 0 1
      destinationIp := .v4 1 1 1 1
      sourcePort := some 5
      destinationPort := none
    }
    packets := 1
    bytes := 100
  }]
  diagnostics := {}

def captureBody (node capturePoint : String) : String :=
  ((captureArgs node capturePoint).envelope (External.ofTable [] []) 0).body.toJson.render

def captureExternal : External := External.ofTable [
    (captureBody "a" "eth0",
      ⟨#[98, 4, 46, 76, 63, 191, 148, 120, 77, 130, 253, 72, 208, 5, 118, 182, 115,
      123, 103, 151, 79, 146, 212, 207, 3, 166, 148, 14, 193, 118, 177, 4], rfl⟩),
    (captureBody "a" "wg0",
      ⟨#[166, 40, 201, 183, 250, 8, 223, 132, 226, 181, 173, 222, 104, 236, 126, 103, 21,
      65, 10, 15, 161, 147, 139, 70, 122, 26, 5, 224, 130, 181, 161, 153], rfl⟩),
    (captureBody "b" "wg0",
      ⟨#[40, 107, 229, 168, 190, 93, 228, 191, 38, 100, 199, 221, 56, 120, 67, 252, 146,
      158, 135, 157, 73, 69, 190, 131, 84, 179, 111, 40, 177, 39, 20, 88], rfl⟩)] []

def captureSpool (node capturePoint : String) : List SpoolCall :=
  [.open noFaults { maxPayloadBytes := 10000, maxAgeSeconds := 1000 },
    .enqueue noFaults (captureArgs node capturePoint)]

def captureCall (node capturePoint : String) : IngestCall where
  envelope := (captureArgs node capturePoint).envelope captureExternal 0
  now := 100

theorem two_captures_conflict :
    (SpoolHistory.run captureExternal (captureSpool "a" "eth0")).enqueued =
        [(captureCall "a" "eth0").envelope] ∧
      (SpoolHistory.run captureExternal (captureSpool "a" "wg0")).enqueued =
        [(captureCall "a" "wg0").envelope] ∧
      checksumPrefix (captureCall "a" "eth0").envelope.checksum ≠
        checksumPrefix (captureCall "a" "wg0").envelope.checksum ∧
      (ControlHistory.run captureExternal
          [captureCall "a" "eth0", captureCall "a" "wg0"]).answers.map (·.2) =
        [.ok .inserted, .error .conflict] := by
  decide +kernel

def twoNodes (first : Bool) : List SpoolCall :=
  if first then captureSpool "a" "eth0" else captureSpool "b" "wg0"

def twoNodesCall (first : Bool) : IngestCall :=
  if first then captureCall "a" "eth0" else captureCall "b" "wg0"

theorem twoNodes_enqueued (first : Bool) :
    (SpoolHistory.run captureExternal (twoNodes first)).enqueued =
      [(twoNodesCall first).envelope] := by
  revert first
  decide +kernel

def twoNodesCalls : List IngestCall := [twoNodesCall true, twoNodesCall false, twoNodesCall true]

theorem honest_agents_never_conflict_twoNodes :
    (ControlHistory.run captureExternal twoNodesCalls).answers.map (·.2) =
        [.ok .inserted, .ok .inserted, .ok .duplicate] ∧
      ∀ answer ∈ (ControlHistory.run captureExternal twoNodesCalls).answers,
        answer.2 ≠ .error .conflict := by
  have enqueued : ∀ envelope, Enqueued captureExternal twoNodes envelope ↔
      ∃ first, envelope = (twoNodesCall first).envelope := by
    intro envelope
    simp only [Enqueued, twoNodes_enqueued, List.mem_singleton]
  have different : ∀ first second, first ≠ second →
      checksumPrefix (twoNodesCall first).envelope.checksum ≠
        checksumPrefix (twoNodesCall second).envelope.checksum ∧
      (twoNodesCall first).envelope.sequence ≠ (twoNodesCall second).envelope.sequence := by
    decide +kernel
  refine ⟨by decide +kernel, honest_agents_never_conflict captureExternal twoNodes _ ?_ ?_ ?_⟩
  · intro call member
    rw [enqueued]
    simp only [twoNodesCalls, List.mem_cons, List.not_mem_nil, or_false] at member
    rcases member with rfl | rfl | rfl
    · exact ⟨true, rfl⟩
    · exact ⟨false, rfl⟩
    · exact ⟨true, rfl⟩
  · intro first second firstMem secondMem bodies
    obtain ⟨one, rfl⟩ := (enqueued first).mp firstMem
    obtain ⟨two, rfl⟩ := (enqueued second).mp secondMem
    exact (different one two fun same => bodies (by rw [same])).1
  · intro first second apart earlier earlierMem later laterMem same
    rw [twoNodes_enqueued, List.mem_singleton] at earlierMem laterMem
    rw [earlierMem, laterMem] at same
    exact absurd same (different first second apart).2

end FlowObservability
