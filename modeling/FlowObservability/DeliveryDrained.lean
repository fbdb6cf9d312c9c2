import FlowObservability.Admission
import FlowObservability.ControlSums
import FlowObservability.DeliveryCompleteness

/-!
What the control plane answers once every spool is drained: the sums of what was enqueued.
-/

namespace FlowObservability

open Runs Table Transaction

/-! The order of the buckets does not matter to an answer. -/

section Answers

variable {buckets others : List FlowBucket} {envelopes copies : List BatchEnvelope}
  {tables : ControlTables} {node : String} {capturePoint : Option String}

theorem totalOf_perm (field : FlowBucket → UInt64) (same : buckets.Perm others) :
    totalOf field buckets = totalOf field others := (same.map _).sum_eq

theorem bucketsAt_perm (same : buckets.Perm others) (start : UInt64) :
    (bucketsAt buckets start).Perm (bucketsAt others start) := same.filter _

theorem Summable.perm (summable : Summable buckets) (same : buckets.Perm others) :
    Summable others := by
  refine ⟨?_, ?_⟩
  · rw [← totalOf_perm _ same]
    exact summable.packets
  · rw [← totalOf_perm _ same]
    exact summable.bytes

theorem matchingBuckets_perm (same : envelopes.Perm copies) (node : String)
    (capturePoint : Option String) :
    (matchingBuckets envelopes node capturePoint).Perm (matchingBuckets copies node capturePoint) := by
  have held : (heldBuckets envelopes).Perm (heldBuckets copies) := same.flatMap_right _
  exact (held.filter _).map _

theorem StatsInRange.perm (inRange : StatsInRange envelopes node capturePoint)
    (same : envelopes.Perm copies) : StatsInRange copies node capturePoint := by
  have buckets := matchingBuckets_perm same node capturePoint
  refine ⟨inRange.summable.perm buckets, ?_, fun whole => ?_⟩
  · rw [← buckets.length_eq]
    exact inRange.buckets
  · rw [← (same.filter _).length_eq]
    exact inRange.batches whole

theorem StatsExact.perm (exact : StatsExact tables node capturePoint buckets)
    (same : buckets.Perm others) : StatsExact tables node capturePoint others := by
  obtain ⟨totals, answer, packets, bytes⟩ := exact
  exact ⟨totals, answer, packets.trans (totalOf_perm _ same), bytes.trans (totalOf_perm _ same)⟩

theorem SeriesExact.perm {«from» «to» : Option UInt64}
    (exact : SeriesExact tables node capturePoint «from» «to» buckets)
    (same : buckets.Perm others) : SeriesExact tables node capturePoint «from» «to» others := by
  obtain ⟨points, answer, sums⟩ := exact
  refine ⟨points, answer, sums.increasing, fun start => ?_, fun point member => ?_,
    fun point member => ?_⟩
  · rw [sums.starts start]
    exact exists_congr fun bucket => and_congr_left fun _ => same.mem_iff
  · rw [sums.packets point member, totalOf_perm _ (bucketsAt_perm same _)]
  · rw [sums.bytes point member, totalOf_perm _ (bucketsAt_perm same _)]

end Answers

namespace System

variable {Agent : Type} {external : External}

/-- Nothing waits in a spool, nothing was lost, and no ingest was too late for a batch. -/
structure Drained [DecidableEq Agent] (external : External) (actions : List (Action Agent))
    (system : System Agent) : Prop where
  pending : ∀ agent, (system.spools agent).tables.batches = []
  gaps : ∀ agent, (system.spools agent).tables.gaps = []
  recent : ∀ envelope, system.Enqueued envelope → ¬Expired external actions envelope

variable [DecidableEq Agent] {actions : List (Action Agent)}

theorem Complete.held {system : System Agent} (complete : system.Complete external actions)
    (trusted : system.Trusted external) : ∃ ledger : Ledger, system.control = ledger.tables ∧
      (∀ envelope ∈ ledger.stored, system.Enqueued envelope) ∧
      ∀ agent, (system.spools agent).tables.batches = [] → (system.spools agent).tables.gaps = [] →
        ∀ envelope ∈ (system.spools agent).enqueued,
          ¬Expired external actions envelope → envelope ∈ ledger.stored := by
  obtain ⟨ledger, tables, committed, kept⟩ := complete.ledger
  refine ⟨ledger, tables, fun envelope held => ?_, ?_⟩
  · exact complete.safe.committed envelope (committed envelope held)
  · intro agent pending gaps envelope belongs recent
    have accounts := (complete.recorded agent).checked.accounted.accounts
    have lost := (accounts.gap_iff belongs).1
    rw [gaps, pending] at lost
    have acked : batchRow envelope ∈ (system.spools agent).acknowledged := by
      by_contra missing
      simpa using lost.mpr ⟨by simp, missing⟩
    obtain ⟨source, delivered, same⟩ := complete.settled agent _ acked
    have equal := trusted.eq_of_checksum complete.safe ⟨agent, belongs⟩
      (complete.safe.committed source delivered) (congrArg BatchRow.checksum same)
    subst equal
    rcases kept envelope delivered with held | expired
    · exact held
    · exact absurd expired recent

theorem Complete.drained {system : System Agent} (complete : system.Complete external actions)
    (trusted : system.Trusted external) (drained : system.Drained external actions) :
    ∃ ledger : Ledger, system.control = ledger.tables ∧
      ∀ envelope, envelope ∈ ledger.stored ↔ system.Enqueued envelope := by
  obtain ⟨ledger, tables, enqueued, held⟩ := complete.held trusted
  refine ⟨ledger, tables, fun envelope => ⟨enqueued envelope, ?_⟩⟩
  rintro ⟨agent, belongs⟩
  exact held agent (drained.pending agent) (drained.gaps agent) envelope belongs
    (drained.recent envelope ⟨agent, belongs⟩)

end System

/-- In every run of the protocol that ends drained the control plane answers with the exact sums of
the buckets of all envelopes enqueued, each counted once, where these sums fit INTEGER columns. -/
theorem drained_answers_exact {Agent : Type} [DecidableEq Agent] (external : External)
    (actions : List (Action Agent)) (trusted : (System.run external actions).Trusted external)
    (drained : (System.run external actions).Drained external actions) (agents : List Agent)
    (every : ∀ agent, ((System.run external actions).spools agent).enqueued ≠ [] → agent ∈ agents)
    (node : String) (capturePoint : Option String) :
    let control := (System.run external actions).control
    let envelopes :=
      (agents.flatMap fun agent => ((System.run external actions).spools agent).enqueued).dedup
    let buckets := matchingBuckets envelopes node capturePoint
    (StatsExact control node capturePoint buckets ↔ StatsInRange envelopes node capturePoint) ∧
      ∀ «from» «to» : Option UInt64, «from».getD 0 ≤ «to».getD 0x7fffffffffffffff →
        («to».getD 0x7fffffffffffffff).toNat < 2 ^ 63 →
        (SeriesExact control node capturePoint «from» «to»
            (bucketsWithin buckets («from».getD 0) («to».getD 0x7fffffffffffffff)) ↔
          ∀ start, Summable (bucketsAt
            (bucketsWithin buckets («from».getD 0) («to».getD 0x7fffffffffffffff)) start)) := by
  intro control envelopes buckets
  obtain ⟨ledger, tables, held⟩ := (System.run_complete trusted).drained trusted drained
  have same : ledger.stored.Perm envelopes := by
    rw [List.perm_ext_iff_of_nodup ledger.sequences.of_map (List.nodup_dedup _)]
    intro envelope
    rw [held, List.mem_dedup, List.mem_flatMap]
    constructor
    · rintro ⟨agent, belongs⟩
      exact ⟨agent, every agent (List.ne_nil_of_mem belongs), belongs⟩
    · rintro ⟨agent, _, belongs⟩
      exact ⟨agent, belongs⟩
  have matching : (matchingBuckets ledger.stored node capturePoint).Perm buckets :=
    matchingBuckets_perm same node capturePoint
  have answers : control = ledger.tables := tables
  rw [answers]
  constructor
  · constructor
    · intro exact
      exact ((ledger.statsExact_iff node capturePoint).mp (exact.perm matching.symm)).perm same
    · intro inRange
      exact ((ledger.statsExact_iff node capturePoint).mpr (inRange.perm same.symm)).perm matching
  · intro «from» «to» order last
    have windows := matching.filter fun bucket =>
      decide («from».getD 0 ≤ bucket.bucketStart) &&
        decide (bucket.bucketStart ≤ «to».getD 0x7fffffffffffffff)
    have seriesIff := ledger.seriesExact_iff node capturePoint order last
    constructor
    · intro exact start
      exact (seriesIff.mp (exact.perm windows.symm) start).perm (bucketsAt_perm windows start)
    · intro summable
      refine (seriesIff.mpr fun start => ?_).perm windows
      exact (summable start).perm (bucketsAt_perm windows.symm start)

/-! One agent, one batch of one bucket, and one pass that delivers it. -/

def deliveredOnce : List (Action (Fin 1)) := [
  .openSpool (Fin.last 0) noFaults countedLimits,
  .enqueue (Fin.last 0) noFaults (countedBatch 1),
  .startUpload 0 (Fin.last 0) noFaults 10,
  .post 0,
  .deliver 0 noFaults {} (some 100),
  .receive 0 0,
  .acknowledge 0 noFaults]

theorem deliveredOnce_spools : ∀ agent : Fin 1,
    ((System.run oneExternal deliveredOnce).spools agent).enqueued = [oneEnvelope] ∧
      ((System.run oneExternal deliveredOnce).spools agent).tables = { nextSeq := some 1 } := by
  decide +kernel

theorem deliveredOnce_drained :
    (System.run oneExternal deliveredOnce).Trusted oneExternal ∧
      (System.run oneExternal deliveredOnce).Drained oneExternal deliveredOnce := by
  have only : ∀ envelope, (System.run oneExternal deliveredOnce).Enqueued envelope →
      envelope = oneEnvelope := by
    rintro envelope ⟨agent, member⟩
    rw [(deliveredOnce_spools agent).1] at member
    exact List.mem_singleton.mp member
  refine ⟨⟨?_, ?_, ?_⟩, ⟨?_, ?_, ?_⟩⟩
  · intro first second firstMem secondMem different
    rw [only first firstMem, only second secondMem] at different
    exact absurd rfl different
  · intro envelope member
    rw [only envelope member]
    decide +kernel
  · intro envelope member
    rw [only envelope member]
    decide +kernel
  · intro agent
    rw [(deliveredOnce_spools agent).2]
  · intro agent
    rw [(deliveredOnce_spools agent).2]
  · intro envelope _ expired
    obtain ⟨request, faults, limits, now, member, tooOld⟩ := expired.of_mem
    simp only [deliveredOnce, List.mem_cons, List.not_mem_nil, or_false, reduceCtorEq, false_or,
      Action.deliver.injEq, Option.some.injEq] at member
    obtain ⟨_, _, rfl, rfl⟩ := member
    simp [controlCutoff] at tooOld

theorem drained_answers_exact_deliveredOnce :
    StatsExact (System.run oneExternal deliveredOnce).control "n" (some "p")
      (matchingBuckets [oneEnvelope] "n" (some "p")) := by
  have every : ∀ agent : Fin 1,
      ((System.run oneExternal deliveredOnce).spools agent).enqueued ≠ [] → agent ∈ [0] := by
    intro agent _
    exact List.mem_singleton.mpr (Subsingleton.elim agent 0)
  have exactly := (drained_answers_exact oneExternal deliveredOnce deliveredOnce_drained.1
    deliveredOnce_drained.2 [0] every "n" (some "p")).1
  have single : ([oneEnvelope] ++ []).dedup = [oneEnvelope] := by simp
  simp only [List.flatMap_cons, List.flatMap_nil, (deliveredOnce_spools 0).1, single] at exactly
  exact exactly.mpr ⟨⟨by decide +kernel, by decide +kernel⟩, by decide +kernel, by simp⟩

end FlowObservability
