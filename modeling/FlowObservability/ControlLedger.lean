import FlowObservability.Control
import FlowObservability.Envelope

/-!
What the control store is for: a ledger of accepted envelopes, one for each batch id and
one for each sequence number of a boot, and what an ingest makes of a ledger.
-/

namespace FlowObservability

open Table Transaction

def BatchEnvelope.sequence (envelope : BatchEnvelope) : String × String × UInt64 :=
  (envelope.body.nodeId, envelope.body.bootId, envelope.body.seq)

def FlowBucket.InRange (bucket : FlowBucket) : Prop :=
  bucket.bucketStart.toNat < 2 ^ 63 ∧ bucket.packets.toNat < 2 ^ 63 ∧ bucket.bytes.toNat < 2 ^ 63

structure BatchEnvelope.InRange (envelope : BatchEnvelope) : Prop where
  seq : envelope.body.seq.toNat < 2 ^ 63
  createdAt : envelope.body.createdAt.toNat < 2 ^ 63
  buckets : ∀ bucket ∈ envelope.body.buckets, bucket.InRange

/-- The accepted envelopes, in the order they were accepted. -/
@[ext] structure Ledger where
  stored : List BatchEnvelope
  batchIds : (stored.map (·.batchId)).Nodup
  sequences : (stored.map (·.sequence)).Nodup
  inRange : ∀ envelope ∈ stored, envelope.InRange

namespace Ledger

def empty : Ledger where
  stored := []
  batchIds := by simp
  sequences := by simp
  inRange := by simp

def prune (cutoff : Nat) (ledger : Ledger) : Ledger where
  stored := ledger.stored.filter fun envelope => cutoff ≤ envelope.body.createdAt.toNat
  batchIds := ledger.batchIds.sublist (List.filter_sublist.map _)
  sequences := ledger.sequences.sublist (List.filter_sublist.map _)
  inRange envelope member := ledger.inRange envelope (List.mem_filter.mp member).1

structure Free (ledger : Ledger) (envelope : BatchEnvelope) : Prop where
  batchId : envelope.batchId ∉ ledger.stored.map (·.batchId)
  sequence : envelope.sequence ∉ ledger.stored.map (·.sequence)

def insert (ledger : Ledger) (envelope : BatchEnvelope) (free : ledger.Free envelope)
    (inRange : envelope.InRange) : Ledger where
  stored := ledger.stored ++ [envelope]
  batchIds := nodup_append_row ledger.batchIds free.batchId
  sequences := nodup_append_row ledger.sequences free.sequence
  inRange other member := by
    rcases List.mem_append.mp member with old | new
    · exact ledger.inRange other old
    · simp only [List.mem_singleton] at new
      exact new ▸ inRange

open Classical in
noncomputable def add (ledger : Ledger) (envelope : BatchEnvelope) : Ledger :=
  if admissible : ledger.Free envelope ∧ envelope.InRange then
    ledger.insert envelope admissible.1 admissible.2
  else ledger

theorem add_stored {ledger : Ledger} {envelope : BatchEnvelope} (free : ledger.Free envelope)
    (inRange : envelope.InRange) : (ledger.add envelope).stored = ledger.stored ++ [envelope] := by
  simp [add, free, inRange, insert]

end Ledger

/-! A ledger as rows. -/

def ingestedBatch (envelope : BatchEnvelope) : IngestedBatch where
  batchId := envelope.batchId
  checksum := envelope.checksum
  nodeId := envelope.body.nodeId
  bootId := envelope.body.bootId
  seq := envelope.body.seq.toNat
  createdAt := envelope.body.createdAt.toNat

def flowRow (envelope : BatchEnvelope) (bucket : FlowBucket) : FlowRow where
  batchId := envelope.batchId
  bucketStart := bucket.bucketStart.toNat
  nodeId := envelope.body.nodeId
  capturePoint := bucket.key.capturePoint
  direction := directionKey bucket.key.direction
  protocol := protocolKey bucket.key.protocol
  sourceIp := bucket.key.sourceIp.toText
  destinationIp := bucket.key.destinationIp.toText
  sourcePort := bucket.key.sourcePort.map fun port => (port.toNat : Int)
  destinationPort := bucket.key.destinationPort.map fun port => (port.toNat : Int)
  packets := bucket.packets.toNat
  bytes := bucket.bytes.toNat

def flowRows (envelope : BatchEnvelope) : List FlowRow :=
  envelope.body.buckets.map (flowRow envelope)

def Ledger.tables (ledger : Ledger) : ControlTables where
  ingestedBatches := ledger.stored.map ingestedBatch
  flowBuckets := ledger.stored.flatMap flowRows

@[simp] theorem flowRow_batchId (envelope : BatchEnvelope) (bucket : FlowBucket) :
    (flowRow envelope bucket).batchId = envelope.batchId := rfl

@[simp] theorem ingestedBatch_batchId (envelope : BatchEnvelope) :
    (ingestedBatch envelope).batchId = envelope.batchId := rfl

theorem batchId_of_mem_flowRows {envelope : BatchEnvelope} {row : FlowRow}
    (member : row ∈ flowRows envelope) : row.batchId = envelope.batchId := by
  obtain ⟨bucket, _, rfl⟩ := List.mem_map.mp member
  rfl

theorem Ledger.flows_of_batch {ledger : Ledger} {envelope : BatchEnvelope}
    (member : envelope ∈ ledger.stored) :
    ledger.tables.flowBuckets.filter (fun row => row.batchId == envelope.batchId) =
      flowRows envelope := by
  have selected : ledger.tables.flowBuckets.filter (fun row => row.batchId == envelope.batchId) =
      (ledger.stored.filter fun other => other.batchId == envelope.batchId).flatMap flowRows := by
    apply filter_flatMap
    intro other _ row belongs
    rw [batchId_of_mem_flowRows belongs]
  rw [selected, filter_key ledger.batchIds member, List.flatMap_singleton]

/-! Ingest on a ledger. -/

def convertBuckets (envelope : BatchEnvelope) : List FlowBucket → Except AnyhowError Unit
  | [] => .ok ()
  | bucket :: rest => do
    let _ ← flowParams envelope bucket
    convertBuckets envelope rest

def convertColumns (envelope : BatchEnvelope) : Except AnyhowError Unit := do
  let _ ← anyhow (integer envelope.body.createdAt.toNat "batch created_at")
  convertBuckets envelope envelope.body.buckets

theorem flowParams_ok {envelope : BatchEnvelope} {bucket : FlowBucket} {row : FlowRow}
    (result : flowParams envelope bucket = .ok row) :
    row = flowRow envelope bucket ∧ bucket.InRange := by
  obtain ⟨bucketStart, start, result⟩ := bind_ok result
  obtain ⟨packets, packetsFit, result⟩ := bind_ok result
  obtain ⟨bytes, bytesFit, result⟩ := bind_ok result
  obtain ⟨rfl, startBound⟩ := integer_ok (anyhow_eq_ok.mp start)
  obtain ⟨rfl, packetsBound⟩ := integer_ok (anyhow_eq_ok.mp packetsFit)
  obtain ⟨rfl, bytesBound⟩ := integer_ok (anyhow_eq_ok.mp bytesFit)
  exact ⟨(pure_ok result).symm, startBound, packetsBound, bytesBound⟩

theorem flowParams_of_inRange (envelope : BatchEnvelope) {bucket : FlowBucket}
    (inRange : bucket.InRange) : flowParams envelope bucket = .ok (flowRow envelope bucket) := by
  obtain ⟨start, packets, bytes⟩ := inRange
  simp only [flowParams, integer_of_lt _ start, integer_of_lt _ packets, integer_of_lt _ bytes]
  rfl

theorem convertBuckets_ok {envelope : BatchEnvelope} {buckets : List FlowBucket}
    (result : convertBuckets envelope buckets = .ok ()) : ∀ bucket ∈ buckets, bucket.InRange := by
  induction buckets with
  | nil => simp
  | cons bucket rest ih =>
      obtain ⟨row, converted, later⟩ := bind_ok result
      exact List.forall_mem_cons.mpr ⟨(flowParams_ok converted).2, ih later⟩

theorem convertBuckets_of_inRange (envelope : BatchEnvelope) {buckets : List FlowBucket}
    (inRange : ∀ bucket ∈ buckets, bucket.InRange) :
    convertBuckets envelope buckets = .ok () := by
  induction buckets with
  | nil => rfl
  | cons bucket rest ih =>
      rw [convertBuckets, flowParams_of_inRange envelope (inRange bucket List.mem_cons_self),
        ok_bind]
      exact ih fun other member => inRange other (List.mem_cons_of_mem _ member)

theorem convertColumns_of_inRange {envelope : BatchEnvelope} (inRange : envelope.InRange) :
    convertColumns envelope = .ok () := by
  simp only [convertColumns, integer_of_lt _ inRange.createdAt, anyhow_ok, ok_bind]
  exact convertBuckets_of_inRange envelope inRange.buckets

namespace Ledger

def pruneExpired (maxAgeSeconds now : UInt64) (ledger : Ledger) : Except RusqliteError Ledger := do
  let _ ← toSqlError (integer (controlCutoff now maxAgeSeconds) "control cutoff")
  return ledger.prune (controlCutoff now maxAgeSeconds)

noncomputable def accept (ledger : Ledger) (envelope : BatchEnvelope) :
    Except IngestError (IngestStatus × Ledger) := do
  let _ ← encoding (anyhow (integer envelope.body.seq.toNat "batch seq"))
  if envelope.sequence ∈ ledger.stored.map (·.sequence) then
    .error .conflict
  else
    encoding (convertColumns envelope)
    return (.inserted, ledger.add envelope)

def lookup (ledger : Ledger) (batchId : String) : Option BatchEnvelope :=
  ledger.stored.find? fun envelope => envelope.batchId == batchId

theorem fresh_of_lookup {ledger : Ledger} {batchId : String}
    (missing : ledger.lookup batchId = none) : batchId ∉ ledger.stored.map (·.batchId) := by
  intro member
  obtain ⟨envelope, stored, same⟩ := List.mem_map.mp member
  have different := List.find?_eq_none.mp missing envelope stored
  simp [same] at different

noncomputable def ingest (maxAgeSeconds : UInt64) (envelope : BatchEnvelope) (now : UInt64)
    (ledger : Ledger) : Except IngestError (IngestStatus × Ledger) := do
  let kept ← database (ledger.pruneExpired maxAgeSeconds now)
  match kept.lookup envelope.batchId with
  | some stored =>
    if stored.checksum = envelope.checksum then .ok (.duplicate, kept) else .error .conflict
  | none => kept.accept envelope

end Ledger

/-! What an ingest does to a ledger. -/

section Ingest

variable {ledger kept next : Ledger} {envelope : BatchEnvelope} {maxAgeSeconds now : UInt64}
variable {status : IngestStatus}

inductive Ingested (kept : Ledger) (envelope : BatchEnvelope) : IngestStatus → Ledger → Prop
  | duplicate {stored} : stored ∈ kept.stored → stored.batchId = envelope.batchId →
      stored.checksum = envelope.checksum → Ingested kept envelope .duplicate kept
  | inserted : kept.Free envelope → envelope.InRange →
      Ingested kept envelope .inserted (kept.add envelope)

theorem convertColumns_ok (result : convertColumns envelope = .ok ()) :
    envelope.body.createdAt.toNat < 2 ^ 63 ∧ ∀ bucket ∈ envelope.body.buckets, bucket.InRange := by
  obtain ⟨createdAt, created, buckets⟩ := bind_ok result
  exact ⟨(integer_ok (anyhow_eq_ok.mp created)).2, convertBuckets_ok buckets⟩

namespace Ledger

theorem mem_of_lookup {stored : BatchEnvelope} {batchId : String}
    (found : ledger.lookup batchId = some stored) :
    stored ∈ ledger.stored ∧ stored.batchId = batchId :=
  ⟨List.mem_of_find?_eq_some found, by simpa using List.find?_some found⟩

theorem lookup_of_mem {stored : BatchEnvelope} (member : stored ∈ ledger.stored) :
    ledger.lookup stored.batchId = some stored := by
  cases found : ledger.lookup stored.batchId with
  | none => exact absurd (List.mem_map_of_mem member) (fresh_of_lookup found)
  | some other =>
      obtain ⟨belongs, same⟩ := mem_of_lookup found
      rw [List.inj_on_of_nodup_map ledger.batchIds belongs member same]

theorem lookup_of_fresh {batchId : String} (fresh : batchId ∉ ledger.stored.map (·.batchId)) :
    ledger.lookup batchId = none := by
  cases found : ledger.lookup batchId with
  | none => rfl
  | some stored =>
      obtain ⟨member, same⟩ := mem_of_lookup found
      exact absurd (List.mem_map.mpr ⟨stored, member, same⟩) fresh

theorem pruneExpired_of_lt (ledger : Ledger) (bound : controlCutoff now maxAgeSeconds < 2 ^ 63) :
    ledger.pruneExpired maxAgeSeconds now = .ok (ledger.prune (controlCutoff now maxAgeSeconds)) := by
  simp only [pruneExpired, integer_of_lt _ bound]
  rfl

theorem pruneExpired_ok (result : ledger.pruneExpired maxAgeSeconds now = .ok kept) :
    kept = ledger.prune (controlCutoff now maxAgeSeconds) ∧
      controlCutoff now maxAgeSeconds < 2 ^ 63 := by
  obtain ⟨cutoff, fits, same⟩ := bind_ok result
  exact ⟨(pure_ok same).symm, (integer_ok (toSqlError_eq_ok.mp fits)).2⟩

theorem accept_ok (fresh : envelope.batchId ∉ kept.stored.map (·.batchId))
    (result : kept.accept envelope = .ok (status, next)) : Ingested kept envelope status next := by
  obtain ⟨seq, seqFits, result⟩ := bind_ok result
  obtain ⟨_, seqBound⟩ := integer_ok (anyhow_eq_ok.mp (encoding_eq_ok.mp seqFits))
  split at result
  · simp at result
  · rename_i unused
    obtain ⟨_, columns, result⟩ := bind_ok result
    obtain ⟨createdBound, bucketsFit⟩ := convertColumns_ok (encoding_eq_ok.mp columns)
    cases pure_ok result
    exact .inserted ⟨fresh, unused⟩ ⟨seqBound, createdBound, bucketsFit⟩

theorem ingest_ok (result : ledger.ingest maxAgeSeconds envelope now = .ok (status, next)) :
    controlCutoff now maxAgeSeconds < 2 ^ 63 ∧
      Ingested (ledger.prune (controlCutoff now maxAgeSeconds)) envelope status next := by
  obtain ⟨kept, pruned, result⟩ := bind_ok result
  obtain ⟨rfl, bound⟩ := pruneExpired_ok (database_eq_ok.mp pruned)
  refine ⟨bound, ?_⟩
  split at result
  · rename_i stored found
    obtain ⟨member, same⟩ := mem_of_lookup found
    split at result
    · rename_i checksum
      cases result
      exact .duplicate member same checksum
    · simp at result
  · rename_i missing
    exact accept_ok (fresh_of_lookup missing) result

theorem ingest_inserted (bound : controlCutoff now maxAgeSeconds < 2 ^ 63)
    (free : (ledger.prune (controlCutoff now maxAgeSeconds)).Free envelope)
    (inRange : envelope.InRange) :
    ledger.ingest maxAgeSeconds envelope now =
      .ok (.inserted, (ledger.prune (controlCutoff now maxAgeSeconds)).add envelope) := by
  rw [ingest, pruneExpired_of_lt ledger bound]
  simp only [database, ok_bind, lookup_of_fresh free.batchId, accept,
    integer_of_lt _ inRange.seq, anyhow_ok, encoding, if_neg free.sequence,
    convertColumns_of_inRange inRange]
  rfl

theorem ingest_known {stored : BatchEnvelope} (bound : controlCutoff now maxAgeSeconds < 2 ^ 63)
    (member : stored ∈ (ledger.prune (controlCutoff now maxAgeSeconds)).stored)
    (same : stored.batchId = envelope.batchId) :
    ledger.ingest maxAgeSeconds envelope now =
      if stored.checksum = envelope.checksum then
        .ok (.duplicate, ledger.prune (controlCutoff now maxAgeSeconds))
      else .error .conflict := by
  have found := lookup_of_mem member
  rw [same] at found
  rw [ingest, pruneExpired_of_lt ledger bound]
  simp only [database, ok_bind, found]

theorem ingest_taken (bound : controlCutoff now maxAgeSeconds < 2 ^ 63)
    (fresh : envelope.batchId ∉
      (ledger.prune (controlCutoff now maxAgeSeconds)).stored.map (·.batchId))
    (taken : envelope.sequence ∈
      (ledger.prune (controlCutoff now maxAgeSeconds)).stored.map (·.sequence)) :
    ledger.ingest maxAgeSeconds envelope now = .error .conflict := by
  obtain ⟨stored, member, same⟩ := List.mem_map.mp taken
  have seqBound : envelope.body.seq.toNat < 2 ^ 63 := by
    have seq : stored.body.seq = envelope.body.seq := congrArg (·.2.2) same
    exact seq ▸ (Ledger.inRange _ stored member).seq
  rw [ingest, pruneExpired_of_lt ledger bound]
  simp only [database, ok_bind, lookup_of_fresh fresh, accept, integer_of_lt _ seqBound, anyhow_ok,
    encoding, if_pos taken]

theorem ingest_avoids (maxAgeSeconds : UInt64) (envelope : BatchEnvelope) (now : UInt64)
    (ledger : Ledger) :
    Avoids (.database constraintError) (ledger.ingest maxAgeSeconds envelope now) := by
  refine (database_avoids ((toSqlError_avoids _).bind fun _ _ => avoids_pure _)).bind ?_
  intro kept _
  split
  · split
    · exact avoids_ok _
    · simp [Avoids]
  · refine (encoding_avoids _ _).bind ?_
    intro _ _
    split
    · simp [Avoids]
    · exact (encoding_avoids _ _).bind fun _ _ => avoids_pure _

end Ledger

end Ingest

/-! The whole of `ingest_at` on a ledger. -/

/-- The answer and the ledger after an ingest: a ledger is left alone by an error. -/
noncomputable def Ledger.ingestAt (external : External) (limits : ControlLimits)
    (envelope : BatchEnvelope) (now : UInt64) (ledger : Ledger) :
    Except IngestError IngestStatus × Ledger :=
  if envelope.body.schemaVersion ≠ SCHEMA_VERSION then
    (.error .schemaVersion, ledger)
  else if ¬envelope.hasValidChecksum external then
    (.error .checksum, ledger)
  else
    transact (Ledger.ingest limits.maxAgeSeconds envelope now) ledger

structure BatchEnvelope.Valid (external : External) (envelope : BatchEnvelope) : Prop where
  schemaVersion : envelope.body.schemaVersion = SCHEMA_VERSION
  checksum : envelope.hasValidChecksum external = true

theorem BatchEnvelope.Sealed.isValid {external : External} {envelope : BatchEnvelope}
    (isSealed : envelope.Sealed external) : envelope.Valid external :=
  ⟨isSealed.schemaVersion, isSealed.valid⟩

section IngestAt

variable {external : External} {limits : ControlLimits} {ledger next : Ledger}
variable {envelope : BatchEnvelope} {now : UInt64} {status : IngestStatus}

theorem Ledger.ingestAt_ok
    (result : ledger.ingestAt external limits envelope now = (.ok status, next)) :
    envelope.Valid external ∧ controlCutoff now limits.maxAgeSeconds < 2 ^ 63 ∧
      Ingested (ledger.prune (controlCutoff now limits.maxAgeSeconds)) envelope status next := by
  unfold ingestAt at result
  split at result
  · simp at result
  · rename_i version
    split at result
    · simp at result
    · rename_i checksum
      exact ⟨⟨not_not.mp version, not_not.mp checksum⟩, ingest_ok (transact_ok result)⟩

theorem Ledger.ingestAt_error {error : IngestError}
    (result : ledger.ingestAt external limits envelope now = (.error error, next)) :
    next = ledger := by
  unfold ingestAt at result
  split at result
  · exact (congrArg Prod.snd result).symm
  · split at result
    · exact (congrArg Prod.snd result).symm
    · exact transact_error result

theorem Ledger.ingestAt_avoids (external : External) (limits : ControlLimits)
    (envelope : BatchEnvelope) (now : UInt64) (ledger : Ledger) :
    Avoids (.database constraintError) (ledger.ingestAt external limits envelope now).1 := by
  unfold ingestAt
  split
  · simp [Avoids]
  · split
    · simp [Avoids]
    · exact transact_avoids (ingest_avoids _ _ _ _)

theorem Ledger.ingestAt_of_valid (valid : envelope.Valid external) (limits : ControlLimits)
    (now : UInt64) (ledger : Ledger) :
    ledger.ingestAt external limits envelope now =
      transact (Ledger.ingest limits.maxAgeSeconds envelope now) ledger := by
  simp [Ledger.ingestAt, valid.schemaVersion, valid.checksum]

theorem Ledger.mem_ingestAt {stored : BatchEnvelope}
    (member : stored ∈ (ledger.ingestAt external limits envelope now).2.stored) :
    stored ∈ ledger.stored ∨
      stored = envelope ∧ (ledger.ingestAt external limits envelope now).1 = .ok .inserted := by
  cases outcome : ledger.ingestAt external limits envelope now with
  | mk answer next =>
      rw [outcome] at member
      cases answer with
      | error error => exact .inl (ingestAt_error outcome ▸ member)
      | ok status =>
          cases (ingestAt_ok outcome).2.2 with
          | duplicate _ _ _ => exact .inl (List.mem_filter.mp member).1
          | inserted free inRange =>
              rw [add_stored free inRange] at member
              rcases List.mem_append.mp member with kept | added
              · exact .inl (List.mem_filter.mp kept).1
              · exact .inr ⟨List.mem_singleton.mp added, rfl⟩

theorem Ledger.ingestAt_keeps {stored : BatchEnvelope} (member : stored ∈ ledger.stored)
    (recent : controlCutoff now limits.maxAgeSeconds ≤ stored.body.createdAt.toNat) :
    stored ∈ (ledger.ingestAt external limits envelope now).2.stored := by
  cases outcome : ledger.ingestAt external limits envelope now with
  | mk answer next =>
      have kept : stored ∈ (ledger.prune (controlCutoff now limits.maxAgeSeconds)).stored :=
        List.mem_filter.mpr ⟨member, by simpa using recent⟩
      cases answer with
      | error error =>
          rw [ingestAt_error outcome]
          exact member
      | ok status =>
          cases (ingestAt_ok outcome).2.2 with
          | duplicate _ _ _ => exact kept
          | inserted free inRange =>
              rw [add_stored free inRange]
              exact List.mem_append_left _ kept

theorem Ledger.mem_of_inserted
    (inserted : (ledger.ingestAt external limits envelope now).1 = .ok .inserted) :
    envelope ∈ (ledger.ingestAt external limits envelope now).2.stored := by
  cases outcome : ledger.ingestAt external limits envelope now with
  | mk answer next =>
      rw [outcome] at inserted
      dsimp only at inserted
      subst inserted
      cases (ingestAt_ok outcome).2.2 with
      | inserted free inRange =>
          rw [add_stored free inRange]
          exact List.mem_append_right _ (List.mem_singleton_self _)

theorem Ledger.ingestAt_members
    (ingested : ledger.ingestAt external limits envelope now = (.ok status, next)) :
    (∀ other ∈ next.stored, other ∈ ledger.stored ∨ other = envelope ∧ status = .inserted) ∧
      (∀ other ∈ ledger.stored, other ∈ next.stored ∨
        other.body.createdAt.toNat < controlCutoff now limits.maxAgeSeconds) ∧
      (status = .inserted → envelope ∈ next.stored) := by
  have answer := congrArg Prod.fst ingested
  have after := congrArg Prod.snd ingested
  dsimp only at answer after
  subst after
  refine ⟨fun other held => ?_, fun other held => ?_, fun inserted => ?_⟩
  · rcases Ledger.mem_ingestAt held with old | ⟨same, inserted⟩
    · exact .inl old
    · rw [answer] at inserted
      exact .inr ⟨same, Except.ok.inj inserted⟩
  · by_cases recent : controlCutoff now limits.maxAgeSeconds ≤ other.body.createdAt.toNat
    · exact .inl (Ledger.ingestAt_keeps held recent)
    · exact .inr (Nat.lt_of_not_le recent)
  · subst inserted
    exact Ledger.mem_of_inserted answer

end IngestAt

end FlowObservability
