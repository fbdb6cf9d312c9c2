import FlowObservability.ControlRefinement
import FlowObservability.Library.Runs

/-!
Runs of the control store over arbitrary envelopes and arbitrary times: the tables stay
those of a ledger of accepted envelopes, and no call ends in a violated key.
-/

namespace FlowObservability

open Table Transaction

structure IngestCall where
  faults : ControlFaults := noFaults
  limits : ControlLimits := {}
  envelope : BatchEnvelope
  now : UInt64

def IngestCall.cutoff (call : IngestCall) : Nat :=
  controlCutoff call.now call.limits.maxAgeSeconds

def IngestCall.outcome (external : External) (call : IngestCall) (tables : ControlTables) :
    Except IngestError IngestStatus × ControlTables :=
  ControlStore.ingestAt external call.faults call.limits call.envelope call.now tables

structure ControlHistory where
  tables : ControlTables := {}
  answers : List (IngestCall × Except IngestError IngestStatus) := []

namespace ControlHistory

def step (external : External) (history : ControlHistory) (call : IngestCall) : ControlHistory where
  tables := (call.outcome external history.tables).2
  answers := history.answers ++ [(call, (call.outcome external history.tables).1)]

def run (external : External) (calls : List IngestCall) : ControlHistory :=
  Runs.run (step external) {} calls

def Accepted (history : ControlHistory) (envelope : BatchEnvelope) : Prop :=
  ∃ answer ∈ history.answers, answer.1.envelope = envelope ∧ answer.2 = .ok .inserted

def Represented (history : ControlHistory) : Prop :=
  ∃ ledger : Ledger, history.tables = ledger.tables ∧
    ∀ envelope ∈ ledger.stored, history.Accepted envelope

end ControlHistory

variable {external : External}

theorem ControlHistory.answers_step (history : ControlHistory) (external : External)
    (selected : BatchEnvelope → Bool) (call : IngestCall) :
    ((history.step external call).answers.filter fun answer =>
        selected answer.1.envelope).map (·.2) =
      (history.answers.filter fun answer => selected answer.1.envelope).map (·.2) ++
        if selected call.envelope then [(call.outcome external history.tables).1] else [] := by
  simp only [step, List.filter_append, List.map_append]
  congr 1
  by_cases chosen : selected call.envelope = true
  · simp [chosen]
  · simp [chosen]

theorem ControlHistory.Accepted.later {history : ControlHistory} {envelope : BatchEnvelope}
    (accepted : history.Accepted envelope) (call : IngestCall) :
    (history.step external call).Accepted envelope := by
  obtain ⟨answer, member, same⟩ := accepted
  exact ⟨answer, List.mem_append_left _ member, same⟩

theorem ControlHistory.Accepted.of_step {history : ControlHistory} {call : IngestCall}
    {envelope : BatchEnvelope} (accepted : (history.step external call).Accepted envelope) :
    history.Accepted envelope ∨
      call.envelope = envelope ∧ (call.outcome external history.tables).1 = .ok .inserted := by
  obtain ⟨answer, member, same, inserted⟩ := accepted
  rcases List.mem_append.mp member with old | new
  · exact .inl ⟨answer, old, same, inserted⟩
  · rw [List.mem_singleton.mp new] at same inserted
    exact .inr ⟨same, inserted⟩

theorem IngestCall.outcome_refines (call : IngestCall) (external : External)
    {tables : ControlTables} {ledger : Ledger} (represents : tables = ledger.tables) :
    call.outcome external tables =
        ((ledger.ingestAt external call.limits call.envelope call.now).1,
          (ledger.ingestAt external call.limits call.envelope call.now).2.tables) ∨
      ∃ error, IngestFailure call.faults error ∧
        call.outcome external tables = (.error error, tables) := by
  rw [represents]
  exact ingestAt_refines external call.faults call.limits call.envelope call.now ledger

theorem ControlHistory.Represented.step {history : ControlHistory}
    (represented : history.Represented) (call : IngestCall) :
    (history.step external call).Represented := by
  obtain ⟨ledger, tables, accepted⟩ := represented
  rcases call.outcome_refines external tables with ideal | ⟨error, _, broken⟩
  · refine ⟨(ledger.ingestAt external call.limits call.envelope call.now).2,
      congrArg Prod.snd ideal, ?_⟩
    intro envelope member
    rcases Ledger.mem_ingestAt member with old | ⟨rfl, inserted⟩
    · exact (accepted envelope old).later call
    · exact ⟨(call, (call.outcome external history.tables).1), by simp [ControlHistory.step], rfl,
        (congrArg Prod.fst ideal).trans inserted⟩
  · refine ⟨ledger, (congrArg Prod.snd broken).trans tables, ?_⟩
    exact fun envelope member => (accepted envelope member).later call

theorem run_represented (external : External) (calls : List IngestCall) :
    (ControlHistory.run external calls).Represented := by
  apply Runs.run_invariant
  · exact ⟨Ledger.empty, rfl, by simp [Ledger.empty]⟩
  · exact fun history call _ represented => represented.step call

inductive IngestCall.Refused (external : External) (call : IngestCall) : IngestError → Prop
  | schemaVersion : call.envelope.body.schemaVersion ≠ SCHEMA_VERSION →
      Refused external call .schemaVersion
  | checksum : call.envelope.hasValidChecksum external = false → Refused external call .checksum
  | cutoff : 2 ^ 63 ≤ call.cutoff → Refused external call
      (.database (.toSqlConversionFailure "control cutoff exceeds SQLite INTEGER range"))
  | engine {error} : IngestFailure call.faults error → Refused external call error

def IngestCall.Clashes (call : IngestCall) (tables : ControlTables) : Prop :=
  ∃ row ∈ tables.ingestedBatches, (call.cutoff : Int) ≤ row.createdAt ∧
    (row.batchId = call.envelope.batchId ∨
      row.nodeId = call.envelope.body.nodeId ∧ row.bootId = call.envelope.body.bootId ∧
        row.seq = call.envelope.body.seq.toNat)

theorem Ledger.ingest_of_ge {ledger : Ledger} {maxAgeSeconds now : UInt64}
    {envelope : BatchEnvelope} (large : 2 ^ 63 ≤ controlCutoff now maxAgeSeconds) :
    ledger.ingest maxAgeSeconds envelope now =
      .error (.database (.toSqlConversionFailure "control cutoff exceeds SQLite INTEGER range")) := by
  simp only [ingest, pruneExpired, integer, if_neg (Nat.not_lt.mpr large)]
  rfl

theorem Ledger.ingest_clash {ledger : Ledger} {maxAgeSeconds now : UInt64}
    {envelope stored : BatchEnvelope} (bound : controlCutoff now maxAgeSeconds < 2 ^ 63)
    (member : stored ∈ (ledger.prune (controlCutoff now maxAgeSeconds)).stored)
    (clash : stored.batchId = envelope.batchId ∨ stored.sequence = envelope.sequence) :
    ledger.ingest maxAgeSeconds envelope now =
        .ok (.duplicate, ledger.prune (controlCutoff now maxAgeSeconds)) ∨
      ledger.ingest maxAgeSeconds envelope now = .error .conflict := by
  by_cases known : envelope.batchId ∈
      (ledger.prune (controlCutoff now maxAgeSeconds)).stored.map (·.batchId)
  · obtain ⟨other, otherMember, same⟩ := List.mem_map.mp known
    rw [ingest_known bound otherMember same]
    split
    · exact .inl rfl
    · exact .inr rfl
  · rcases clash with batchId | sequence
    · exact absurd (List.mem_map.mpr ⟨stored, member, batchId⟩) known
    · exact .inr (ingest_taken bound known (List.mem_map.mpr ⟨stored, member, sequence⟩))

structure ControlHistory.Sound (history : ControlHistory) : Prop where
  batchIds : (history.tables.ingestedBatches.map (·.batchId)).Nodup
  sequences : (history.tables.ingestedBatches.map fun row => (row.nodeId, row.bootId, row.seq)).Nodup
  flows : ∀ batch ∈ history.tables.ingestedBatches, ∃ envelope, history.Accepted envelope ∧
    batch = ingestedBatch envelope ∧
    (history.tables.flowBuckets.filter fun row => row.batchId == batch.batchId).Perm
      (flowRows envelope)
  owned : ∀ row ∈ history.tables.flowBuckets, ∃ batch ∈ history.tables.ingestedBatches,
    batch.batchId = row.batchId ∧ batch.nodeId = row.nodeId

/-- A call that fails changes nothing, and never fails on a key of the tables: an identity that
is taken makes it a duplicate or a conflict, unless it ended before. -/
structure IngestCall.Safe (external : External) (call : IngestCall) (tables : ControlTables) :
    Prop where
  rollback : ∀ error, (call.outcome external tables).1 = .error error →
    (call.outcome external tables).2 = tables
  keys : FaultsKeepKeys call.faults →
    (call.outcome external tables).1 ≠ .error (.database constraintError)
  clashes : call.Clashes tables → (call.outcome external tables).1 = .ok .duplicate ∨
    (call.outcome external tables).1 = .error .conflict ∨
    ∃ error, call.Refused external error ∧ (call.outcome external tables).1 = .error error

theorem Ledger.rows_sequences (ledger : Ledger) :
    (ledger.tables.ingestedBatches.map fun row => (row.nodeId, row.bootId, row.seq)).Nodup := by
  have injective : Function.Injective fun (node, boot, seq) =>
      ((node, boot, ((seq : UInt64).toNat : Int)) : String × String × Int) := by
    rintro ⟨node, boot, seq⟩ ⟨otherNode, otherBoot, otherSeq⟩ same
    simpa [UInt64.toNat_inj] using same
  have distinct := ledger.sequences.map injective
  rw [List.map_map] at distinct
  rw [Ledger.tables, List.map_map]
  exact distinct

theorem ControlHistory.Represented.sound {history : ControlHistory}
    (represented : history.Represented) : history.Sound := by
  obtain ⟨ledger, tables, accepted⟩ := represented
  rw [show history = { history with tables := ledger.tables } by rw [← tables]]
  constructor
  · simp only [Ledger.tables, List.map_map]
    exact ledger.batchIds
  · exact ledger.rows_sequences
  · intro batch member
    obtain ⟨envelope, stored, rfl⟩ := List.mem_map.mp member
    exact ⟨envelope, accepted envelope stored, rfl,
      List.Perm.of_eq (ledger.flows_of_batch stored)⟩
  · intro row member
    obtain ⟨envelope, stored, belongs⟩ := List.mem_flatMap.mp member
    obtain ⟨bucket, _, rfl⟩ := List.mem_map.mp belongs
    exact ⟨ingestedBatch envelope, List.mem_map_of_mem stored, rfl, rfl⟩

theorem IngestCall.rollback {call : IngestCall} {tables : ControlTables} {error : IngestError}
    (failed : (call.outcome external tables).1 = .error error) :
    (call.outcome external tables).2 = tables := by
  unfold IngestCall.outcome ControlStore.ingestAt at failed ⊢
  split
  · rfl
  · split
    · rfl
    · rename_i version checksum
      rw [if_neg version, if_neg checksum] at failed
      exact transact_error (eq_of_fst failed)

theorem IngestCall.clash_reported {call : IngestCall} {ledger : Ledger}
    (clash : call.Clashes ledger.tables) (valid : call.envelope.Valid external)
    (bound : call.cutoff < 2 ^ 63) :
    (ledger.ingestAt external call.limits call.envelope call.now).1 = .ok .duplicate ∨
      (ledger.ingestAt external call.limits call.envelope call.now).1 = .error .conflict := by
  obtain ⟨row, member, recent, same⟩ := clash
  obtain ⟨stored, belongs, rfl⟩ := List.mem_map.mp member
  have kept : stored ∈ (ledger.prune call.cutoff).stored := by
    refine List.mem_filter.mpr ⟨belongs, ?_⟩
    simpa [ingestedBatch] using recent
  have identity : stored.batchId = call.envelope.batchId ∨
      stored.sequence = call.envelope.sequence := by
    simpa [ingestedBatch, BatchEnvelope.sequence, UInt64.toNat_inj] using same
  rw [Ledger.ingestAt_of_valid valid]
  rcases Ledger.ingest_clash bound kept identity with duplicate | conflict
  · exact .inl (by rw [transact_of_ok duplicate])
  · exact .inr (by rw [transact_of_error conflict])

theorem IngestCall.refused_or {call : IngestCall} {ledger : Ledger}
    (clash : call.Clashes ledger.tables) :
    (ledger.ingestAt external call.limits call.envelope call.now).1 = .ok .duplicate ∨
      (ledger.ingestAt external call.limits call.envelope call.now).1 = .error .conflict ∨
      ∃ error, call.Refused external error ∧
        (ledger.ingestAt external call.limits call.envelope call.now).1 = .error error := by
  by_cases version : call.envelope.body.schemaVersion = SCHEMA_VERSION
  · cases checksum : call.envelope.hasValidChecksum external with
    | false =>
        exact .inr (.inr ⟨_, .checksum checksum, by simp [Ledger.ingestAt, version, checksum]⟩)
    | true =>
        have valid : call.envelope.Valid external := ⟨version, checksum⟩
        by_cases bound : call.cutoff < 2 ^ 63
        · rcases clash_reported clash valid bound with duplicate | conflict
          · exact .inl duplicate
          · exact .inr (.inl conflict)
        · have large := Nat.not_lt.mp bound
          refine .inr (.inr ⟨_, .cutoff large, ?_⟩)
          rw [Ledger.ingestAt_of_valid valid, transact_of_error (Ledger.ingest_of_ge large)]
  · exact .inr (.inr ⟨_, .schemaVersion version, by simp [Ledger.ingestAt, version]⟩)

theorem ControlHistory.Represented.safe {history : ControlHistory}
    (represented : history.Represented) (call : IngestCall) :
    call.Safe external history.tables := by
  obtain ⟨ledger, tables, _⟩ := represented
  refine ⟨fun error => call.rollback, ?_, ?_⟩
  · intro keeps
    rcases call.outcome_refines external tables with
      ideal | ⟨error, ⟨cause, broken, same⟩, failed⟩
    · rw [ideal]
      exact ledger.ingestAt_avoids external call.limits call.envelope call.now
    · intro violated
      rw [failed] at violated
      simp only [same, Except.error.injEq, IngestError.database.injEq] at violated
      exact not_engineFailure_constraint keeps (violated ▸ broken)
  · intro clash
    rcases call.outcome_refines external tables with ideal | ⟨error, broken, failed⟩
    · rw [ideal]
      exact IngestCall.refused_or (tables ▸ clash)
    · exact .inr (.inr ⟨error, .engine broken, congrArg Prod.fst failed⟩)

def NothingExpires (external : External) (calls : List IngestCall) : Prop :=
  ∀ before call after, calls = before ++ call :: after →
    ∀ row ∈ (ControlHistory.run external before).tables.ingestedBatches,
      (call.cutoff : Int) ≤ row.createdAt

theorem nothingExpires_of_zero {external : External} {calls : List IngestCall}
    (early : ∀ call ∈ calls, call.cutoff = 0) : NothingExpires external calls := by
  intro before call after same row member
  obtain ⟨ledger, tables, _⟩ := run_represented external before
  rw [tables] at member
  obtain ⟨envelope, _, rfl⟩ := List.mem_map.mp member
  rw [early call (by simp [same])]
  exact Int.natCast_nonneg _

/-- The control store keeps its two tables together over every run, and a call that fails is as
if it had not been made. -/
theorem control_store_sound (external : External) (calls : List IngestCall) :
    (ControlHistory.run external calls).Sound ∧
      ∀ call : IngestCall, call.Safe external (ControlHistory.run external calls).tables :=
  ⟨(run_represented external calls).sound, (run_represented external calls).safe⟩

end FlowObservability
