import FlowObservability.ControlHistory
import FlowObservability.ControlQueries

/-!
Ingest is idempotent and independent of the order of delivery: a set of batches ends in
the same rows whatever the order, the repetitions and the times of its deliveries.
-/

namespace FlowObservability

open Table Transaction

/-- Batches that cannot clash: what `BatchEnvelope::new` builds, each with its own identities. -/
structure Compatible (external : External) (batches : List BatchEnvelope) : Prop where
  isSealed : ∀ envelope ∈ batches, envelope.Sealed external
  inRange : ∀ envelope ∈ batches, envelope.InRange
  batchIds : (batches.map (·.batchId)).Nodup
  sequences : (batches.map (·.sequence)).Nodup

/-- Deliveries of the batches in some order, at times when none of them has expired. -/
structure Deliveries (batches : List BatchEnvelope) (calls : List IngestCall) : Prop where
  faultless : ∀ call ∈ calls, call.faults = noFaults
  member : ∀ call ∈ calls, call.envelope ∈ batches
  unexpired : ∀ call ∈ calls, ∀ envelope ∈ batches,
    call.cutoff ≤ envelope.body.createdAt.toNat

theorem Deliveries.covered {batches : List BatchEnvelope} {calls : List IngestCall}
    (deliveries : Deliveries batches calls) : calls.map (·.envelope) ⊆ batches := by
  intro envelope member
  obtain ⟨call, belongs, rfl⟩ := List.mem_map.mp member
  exact deliveries.member call belongs

def ControlHistory.answersTo (history : ControlHistory) (envelope : BatchEnvelope) :
    List (Except IngestError IngestStatus) :=
  (history.answers.filter fun answer => answer.1.envelope == envelope).map (·.2)

section Step

variable {external : External} {batches : List BatchEnvelope} {ledger : Ledger} {call : IngestCall}

theorem Ledger.prune_of_recent {cutoff : Nat}
    (recent : ∀ envelope ∈ ledger.stored, cutoff ≤ envelope.body.createdAt.toNat) :
    ledger.prune cutoff = ledger := by
  ext1
  exact List.filter_eq_self.mpr fun envelope member => by simpa using recent envelope member

def Ledger.Within (ledger : Ledger) (batches : List BatchEnvelope) : Prop :=
  ledger.stored ⊆ batches

variable (compatible : Compatible external batches) (within : ledger.Within batches)
  (member : call.envelope ∈ batches)
  (unexpired : ∀ envelope ∈ batches, call.cutoff ≤ envelope.body.createdAt.toNat)
include compatible within member unexpired

theorem Ledger.nothing_expires :
    controlCutoff call.now call.limits.maxAgeSeconds < 2 ^ 63 ∧
      ledger.prune (controlCutoff call.now call.limits.maxAgeSeconds) = ledger :=
  ⟨lt_of_le_of_lt (unexpired _ member) (compatible.inRange _ member).createdAt,
    ledger.prune_of_recent fun envelope stored => unexpired envelope (within stored)⟩

theorem Ledger.ingestAt_stored (known : call.envelope ∈ ledger.stored) :
    ledger.ingestAt external call.limits call.envelope call.now = (.ok .duplicate, ledger) := by
  obtain ⟨bound, kept⟩ := ledger.nothing_expires compatible within member unexpired
  rw [ingestAt_of_valid (compatible.isSealed _ member).isValid]
  apply transact_of_ok
  rw [ingest_known bound (kept.symm ▸ known) rfl, if_pos rfl, kept]

theorem Ledger.ingestAt_fresh (unknown : call.envelope ∉ ledger.stored) :
    ∃ next : Ledger, ledger.ingestAt external call.limits call.envelope call.now =
      (.ok .inserted, next) ∧ next.stored = ledger.stored ++ [call.envelope] := by
  obtain ⟨bound, kept⟩ := ledger.nothing_expires compatible within member unexpired
  have inRange := compatible.inRange _ member
  have free : ledger.Free call.envelope := by
    constructor
    · intro taken
      obtain ⟨stored, belongs, same⟩ := List.mem_map.mp taken
      have equal := List.inj_on_of_nodup_map compatible.batchIds (within belongs) member same
      exact unknown (equal ▸ belongs)
    · intro taken
      obtain ⟨stored, belongs, same⟩ := List.mem_map.mp taken
      have equal := List.inj_on_of_nodup_map compatible.sequences (within belongs) member same
      exact unknown (equal ▸ belongs)
  refine ⟨ledger.add call.envelope, ?_, Ledger.add_stored free inRange⟩
  rw [ingestAt_of_valid (compatible.isSealed _ member).isValid]
  apply transact_of_ok
  rw [ingest_inserted bound (kept.symm ▸ free) inRange, kept]

end Step

section Run

variable {external : External} {batches : List BatchEnvelope} {calls : List IngestCall}

structure ControlHistory.Delivered (history : ControlHistory) (calls : List IngestCall)
    (ledger : Ledger) : Prop where
  tables : history.tables = ledger.tables
  stored : ∀ envelope, envelope ∈ ledger.stored ↔ envelope ∈ calls.map (·.envelope)
  unanswered : ∀ envelope ∉ ledger.stored, history.answersTo envelope = []
  answered : ∀ envelope ∈ ledger.stored, ∃ repeats,
    history.answersTo envelope = .ok .inserted :: List.replicate repeats (.ok .duplicate)

theorem ControlHistory.answersTo_step (history : ControlHistory) (call : IngestCall)
    (envelope : BatchEnvelope) :
    (history.step external call).answersTo envelope = history.answersTo envelope ++
      if call.envelope = envelope then [(call.outcome external history.tables).1] else [] := by
  simpa [answersTo] using history.answers_step external (· == envelope) call

section Delivery

variable {history : ControlHistory} {ledger next : Ledger} {call : IngestCall}
variable (delivered : history.Delivered calls ledger)
include delivered

theorem ControlHistory.Delivered.again (known : call.envelope ∈ ledger.stored)
    (outcome : call.outcome external history.tables = (.ok .duplicate, ledger.tables)) :
    (history.step external call).Delivered (calls ++ [call]) ledger where
  tables := congrArg Prod.snd outcome
  stored envelope := by
    rw [delivered.stored, List.map_append, List.mem_append]
    constructor
    · exact .inl
    · rintro (old | new)
      · exact old
      · simp only [List.map_cons, List.map_nil, List.mem_singleton] at new
        exact new ▸ (delivered.stored _).mp known
  unanswered envelope missing := by
    have different : call.envelope ≠ envelope := fun same => missing (same ▸ known)
    simp [answersTo_step, delivered.unanswered envelope missing, different]
  answered envelope stored := by
    obtain ⟨repeats, answers⟩ := delivered.answered envelope stored
    rw [answersTo_step, answers]
    split
    · exact ⟨repeats + 1, by simp [outcome, List.replicate_succ']⟩
    · exact ⟨repeats, by simp⟩

theorem ControlHistory.Delivered.first (unknown : call.envelope ∉ ledger.stored)
    (outcome : call.outcome external history.tables = (.ok .inserted, next.tables))
    (stored : next.stored = ledger.stored ++ [call.envelope]) :
    (history.step external call).Delivered (calls ++ [call]) next where
  tables := congrArg Prod.snd outcome
  stored envelope := by
    rw [stored, List.mem_append, delivered.stored, List.map_append, List.mem_append]
    rfl
  unanswered envelope missing := by
    rw [stored, List.mem_append, not_or] at missing
    have different : call.envelope ≠ envelope := fun same => missing.2 (by simp [same])
    simp [answersTo_step, delivered.unanswered envelope missing.1, different]
  answered envelope belongs := by
    rw [stored] at belongs
    rw [answersTo_step]
    rcases List.mem_append.mp belongs with old | new
    · obtain ⟨repeats, answers⟩ := delivered.answered envelope old
      have different : call.envelope ≠ envelope := fun same => unknown (same ▸ old)
      exact ⟨repeats, by simp [answers, different]⟩
    · have same := List.mem_singleton.mp new
      subst same
      exact ⟨0, by simp [delivered.unanswered _ unknown, outcome]⟩

theorem ControlHistory.Delivered.step (compatible : Compatible external batches)
    (deliveries : Deliveries batches (calls ++ [call])) :
    ∃ next, (history.step external call).Delivered (calls ++ [call]) next := by
  have last : call ∈ calls ++ [call] := by simp
  have member := deliveries.member call last
  have unexpired := deliveries.unexpired call last
  have within : ledger.Within batches := by
    intro envelope stored
    obtain ⟨other, belongs, same⟩ := List.mem_map.mp ((delivered.stored envelope).mp stored)
    exact same ▸ deliveries.member other (List.mem_append_left _ belongs)
  have outcome := ingestAt_noFaults external call.limits call.envelope call.now ledger
  rw [← delivered.tables, ← deliveries.faultless call last] at outcome
  by_cases known : call.envelope ∈ ledger.stored
  · rw [Ledger.ingestAt_stored compatible within member unexpired known] at outcome
    exact ⟨ledger, delivered.again known outcome⟩
  · obtain ⟨next, inserted, stored⟩ :=
      Ledger.ingestAt_fresh compatible within member unexpired known
    rw [inserted] at outcome
    exact ⟨next, delivered.first known outcome stored⟩

end Delivery

theorem run_delivered (compatible : Compatible external batches)
    (deliveries : Deliveries batches calls) :
    ∃ ledger, (ControlHistory.run external calls).Delivered calls ledger := by
  induction calls using List.reverseRecOn with
  | nil => exact ⟨Ledger.empty, rfl, by simp [Ledger.empty], fun _ _ => rfl, by simp [Ledger.empty]⟩
  | append_singleton calls call ih =>
      obtain ⟨ledger, delivered⟩ := ih {
        faultless := fun other member => deliveries.faultless other (by simp [member])
        member := fun other member => deliveries.member other (by simp [member])
        unexpired := fun other member => deliveries.unexpired other (by simp [member])
      }
      obtain ⟨next, after⟩ := delivered.step compatible deliveries
      rw [ControlHistory.run, Runs.run_snoc]
      exact ⟨next, after⟩

end Run

/-- Every envelope is inserted once and a duplicate from then on, and any two sequences of
deliveries that bring every envelope end in the same rows and answer every query alike. -/
theorem deliveries_confluent (external : External) (batches : List BatchEnvelope)
    (compatible : Compatible external batches) (first second : List IngestCall)
    (firstDeliveries : Deliveries batches first) (secondDeliveries : Deliveries batches second)
    (firstCovers : batches ⊆ first.map (·.envelope))
    (secondCovers : batches ⊆ second.map (·.envelope)) :
    (∀ envelope ∈ batches, ∃ repeats, (ControlHistory.run external first).answersTo envelope =
        .ok .inserted :: List.replicate repeats (.ok .duplicate)) ∧
      (ControlHistory.run external first).tables.SameRows
        (ControlHistory.run external second).tables ∧
      ControlStore.nodes noFaults (ControlHistory.run external first).tables =
        ControlStore.nodes noFaults (ControlHistory.run external second).tables ∧
      (∀ node capturePoint,
        ControlStore.stats noFaults node capturePoint (ControlHistory.run external first).tables =
        ControlStore.stats noFaults node capturePoint (ControlHistory.run external second).tables) ∧
      ∀ node capturePoint «from» «to»,
        ControlStore.series noFaults node capturePoint «from» «to»
          (ControlHistory.run external first).tables =
        ControlStore.series noFaults node capturePoint «from» «to»
          (ControlHistory.run external second).tables := by
  obtain ⟨firstLedger, firstDelivered⟩ := run_delivered compatible firstDeliveries
  obtain ⟨secondLedger, secondDelivered⟩ := run_delivered compatible secondDeliveries
  have perm : firstLedger.stored.Perm secondLedger.stored := by
    apply (List.perm_ext_iff_of_nodup firstLedger.batchIds.of_map secondLedger.batchIds.of_map).mpr
    intro envelope
    rw [firstDelivered.stored, secondDelivered.stored]
    exact ⟨fun member => secondCovers (firstDeliveries.covered member),
      fun member => firstCovers (secondDeliveries.covered member)⟩
  have same := Ledger.sameRows perm
  have unsigned := firstLedger.tables_unsigned
  rw [firstDelivered.tables, secondDelivered.tables]
  refine ⟨?_, same, same.nodes, same.stats unsigned, same.series unsigned⟩
  intro envelope member
  exact firstDelivered.answered envelope ((firstDelivered.stored envelope).mpr (firstCovers member))

/-! Two batches of one boot, the second delivered before the first and the first repeated. -/

def numberedBatch (external : External) (seq : UInt64) : BatchEnvelope :=
  BatchEnvelope.new external "n" "b" seq 100 [webBucket (seq + 1)] {}

def numberedExternal : External := External.ofTable [
    ((numberedBatch (External.ofTable [] []) 0).body.toJson.render,
      ⟨#[174, 33, 128, 147, 192, 29, 4, 67, 64, 179, 32, 244, 229, 63, 13, 156, 128, 153,
      217, 247, 152, 103, 169, 208, 175, 222, 48, 195, 198, 45, 90, 47], rfl⟩),
    ((numberedBatch (External.ofTable [] []) 1).body.toJson.render,
      ⟨#[139, 29, 114, 73, 54, 141, 61, 87, 201, 188, 233, 225, 75, 217, 188, 142, 9,
      182, 168, 125, 227, 75, 212, 54, 42, 166, 70, 50, 165, 233, 211, 215], rfl⟩)] []

def delivery (seq : UInt64) : IngestCall where
  envelope := numberedBatch numberedExternal seq
  now := 100

theorem numbered_compatible :
    Compatible numberedExternal
      [numberedBatch numberedExternal 0, numberedBatch numberedExternal 1] where
  isSealed envelope member := by
    simp only [List.mem_cons, List.not_mem_nil, or_false] at member
    rcases member with rfl | rfl
    · exact BatchEnvelope.new_sealed ..
    · exact BatchEnvelope.new_sealed ..
  inRange envelope member := by
    have inRange : (webBucket 1).InRange ∧ (webBucket 2).InRange :=
      ⟨⟨by decide, by decide, by decide⟩, by decide, by decide, by decide⟩
    simp only [List.mem_cons, List.not_mem_nil, or_false] at member
    rcases member with rfl | rfl
    · exact ⟨by decide, by decide, by simpa [numberedBatch, BatchEnvelope.new] using inRange.1⟩
    · exact ⟨by decide, by decide, by simpa [numberedBatch, BatchEnvelope.new] using inRange.2⟩
  batchIds := by decide +kernel
  sequences := by decide +kernel

theorem numbered_deliveries {calls : List IngestCall}
    (numbered : ∀ call ∈ calls, call = delivery 0 ∨ call = delivery 1) :
    Deliveries [numberedBatch numberedExternal 0, numberedBatch numberedExternal 1] calls where
  faultless call member := by
    rcases numbered call member with rfl | rfl
    · rfl
    · rfl
  member call member := by
    rcases numbered call member with rfl | rfl
    · exact List.mem_cons_self
    · exact List.mem_cons_of_mem _ List.mem_cons_self
  unexpired call member envelope _ := by
    have cutoff : call.cutoff = 0 := by
      rcases numbered call member with rfl | rfl
      · rfl
      · rfl
    omega

theorem deliveries_confluent_numbered :
    (ControlHistory.run numberedExternal [delivery 0, delivery 1]).tables.flowBuckets.length = 2 ∧
      (ControlHistory.run numberedExternal [delivery 1, delivery 0, delivery 1]).tables.SameRows
        (ControlHistory.run numberedExternal [delivery 0, delivery 1]).tables := by
  refine ⟨by decide +kernel, ?_⟩
  exact (deliveries_confluent numberedExternal _ numbered_compatible
    [delivery 1, delivery 0, delivery 1] [delivery 0, delivery 1]
    (numbered_deliveries (by simp)) (numbered_deliveries (by simp))
    (by simp [delivery]) (by simp [delivery])).2.1

end FlowObservability
