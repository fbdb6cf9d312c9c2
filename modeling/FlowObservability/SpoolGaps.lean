import Mathlib.Algebra.BigOperators.Ring.Finset
import FlowObservability.SpoolAccount
import FlowObservability.SpoolBudget
import FlowObservability.SpoolNeedless
import FlowObservability.SpoolPending

/-!
What `gaps` and `status` report of a run: each batch lost, the `enqueue` that lost it, and why.
-/

namespace FlowObservability

open Runs Table Transaction

structure GapEvent where
  seq : UInt64
  minBucket : Option UInt64
  maxBucket : Option UInt64
  lostBytes : UInt64
  reason : String
  createdAt : UInt64
  deriving DecidableEq, Repr

inductive GapStatement where
  | selectGaps
  deriving DecidableEq, Repr

def readGap (row : GapRow) : Except RusqliteError GapEvent := do
  let seq ← unsigned 0 row.seq
  let minBucket ← optionalUnsigned 1 row.minBucket
  let maxBucket ← optionalUnsigned 2 row.maxBucket
  let lostBytes ← unsigned 3 row.lostBytes
  let createdAt ← unsigned 5 row.createdAt
  return { seq, minBucket, maxBucket, lostBytes, reason := row.reason, createdAt }

def Spool.gaps (faults : Faults GapStatement SpoolTables) (tables : SpoolTables) :
    Except AnyhowError (List GapEvent) := do
  sqlite (runs faults .selectGaps tables)
  sqlite ((orderBy (·.seq) tables.gaps).mapM readGap)

/-- Why the `enqueue` of `later` under these limits, on these tables, loses an envelope. -/
inductive Lost (limits : SpoolLimits) (tables : SpoolTables) (envelope later : BatchEnvelope) :
    String → Prop
  | oversized (itself : later = envelope)
      (tooLarge : limits.maxPayloadBytes.toNat < (toVec envelope).utf8ByteSize) :
      Lost limits tables envelope later "batch_exceeds_spool_limit"
  | expired (pending : batchRow envelope ∈ tables.batches)
      (old : envelope.body.createdAt.toNat + limits.maxAgeSeconds.toNat <
        later.body.createdAt.toNat) :
      Lost limits tables envelope later "spool_age_limit"
  | crowded (pending : batchRow envelope ∈ tables.batches)
      (young : later.body.createdAt.toNat ≤
        envelope.body.createdAt.toNat + limits.maxAgeSeconds.toNat)
      (exceeds : limits.maxPayloadBytes.toNat <
        (tables.offered later).bytesFrom envelope.body.seq.toNat fun _ => true) :
      Lost limits tables envelope later "spool_byte_limit"

def BatchEnvelope.gapEvent (envelope later : BatchEnvelope) (reason : String) : GapEvent where
  seq := envelope.body.seq
  minBucket := (bucketRange envelope.body.buckets).1
  maxBucket := (bucketRange envelope.body.buckets).2
  lostBytes := UInt64.ofNat (toVec envelope).utf8ByteSize
  reason
  createdAt := later.body.createdAt

structure GapRow.Records (gap : GapRow) (enqueued : List BatchEnvelope)
    (envelope later : BatchEnvelope) (reason : String) : Prop where
  belongs : envelope ∈ enqueued
  caused : later ∈ enqueued
  same : gap = (batchRow envelope).gap reason later.body.createdAt
  columns : (batchRow envelope).Unsigned
  createdAt : later.body.createdAt.toNat < 2 ^ 63

structure SpoolHistory.Recorded (external : External) (history : SpoolHistory) : Prop where
  checked : history.Checked external
  bytes : history.tables.totalBytes < 2 ^ 63
  gaps : ∀ gap ∈ history.tables.gaps, ∃ envelope later reason,
    gap.Records history.enqueued envelope later reason

/-- The call of the run that lost the envelope: an `enqueue` of `later` that succeeds, under the
limits the spool is open with, after which the envelope is no longer pending. -/
structure LostAt (external : External) (calls before : List SpoolCall) (faults : SpoolFaults)
    (args : EnqueueArgs) (limits : SpoolLimits) (envelope later : BatchEnvelope) (reason : String) :
    Prop where
  call : before ++ [.enqueue faults args] <+: calls
  opened : (SpoolHistory.run external before).limits = some limits
  numbered : later = (SpoolHistory.run external before).tables.nextEnvelope external args
  enqueued : (SpoolHistory.run external (before ++ [.enqueue faults args])).enqueued =
    (SpoolHistory.run external before).enqueued ++ [later]
  gone : batchRow envelope ∉
    (SpoolHistory.run external (before ++ [.enqueue faults args])).tables.batches
  lost : Lost limits (SpoolHistory.run external before).tables envelope later reason

section Reading

theorem toNat_ofNat_of_integer {value : Nat} (bound : value < 2 ^ 63) :
    (UInt64.ofNat value).toNat = value := by
  have wide : value < 2 ^ 64 := by omega
  exact UInt64.toNat_ofNat_of_lt' wide

theorem unsigned_ofNat {value : UInt64} (bound : (value.toNat : Int) < 2 ^ 63) (index : Nat) :
    unsigned index (value.toNat : Int) = .ok value := by
  rw [unsigned_of_nat (by omega), UInt64.ofNat_toNat]

theorem optionalUnsigned_ofNat {value : Option UInt64}
    (bound : ∀ column ∈ value.map fun number => (number.toNat : Int), 0 ≤ column ∧ column < 2 ^ 63)
    (index : Nat) :
    optionalUnsigned index (value.map fun number => (number.toNat : Int)) = .ok value := by
  cases value with
  | none => rfl
  | some number =>
      rw [Option.map_some, optionalUnsigned, unsigned_ofNat (bound _ rfl).2]
      rfl

theorem readGap_ok {row : GapRow} {event : GapEvent} (read : readGap row = .ok event) :
    (event.seq.toNat : Int) = row.seq := by
  obtain ⟨seq, seqRead, read⟩ := bind_ok read
  obtain ⟨_, _, read⟩ := bind_ok read
  obtain ⟨_, _, read⟩ := bind_ok read
  obtain ⟨_, _, read⟩ := bind_ok read
  obtain ⟨_, _, read⟩ := bind_ok read
  rw [← pure_ok read]
  exact (unsigned_ok seqRead).1.symm

variable {enqueued : List BatchEnvelope} {gap : GapRow} {envelope later : BatchEnvelope}
  {reason : String}

theorem GapRow.Records.readGap_eq (records : gap.Records enqueued envelope later reason) :
    readGap gap = .ok (envelope.gapEvent later reason) := by
  have columns := records.columns
  have createdAt : (later.body.createdAt.toNat : Int) < 2 ^ 63 := by
    have bound := records.createdAt
    omega
  have lostBytes : unsigned 3 (batchRow envelope).payloadBytes =
      .ok (UInt64.ofNat (toVec envelope).utf8ByteSize) := unsigned_of_nat (by
        have bound := columns.payloadBytes.2
        simp only [batchRow] at bound
        omega)
  rw [records.same, readGap]
  simp only [BatchRow.gap, batchRow] at lostBytes ⊢
  rw [unsigned_ofNat columns.seq.2, optionalUnsigned_ofNat columns.minBucket,
    optionalUnsigned_ofNat columns.maxBucket, lostBytes, unsigned_ofNat createdAt]
  rfl

theorem GapRow.Records.more (records : gap.Records enqueued envelope later reason)
    (new : BatchEnvelope) : gap.Records (enqueued ++ [new]) envelope later reason :=
  ⟨List.mem_append_left _ records.belongs, List.mem_append_left _ records.caused, records.same,
    records.columns, records.createdAt⟩

end Reading

section Storing

variable {external : External} {faults : SpoolFaults} {limits : SpoolLimits}
  {envelope : BatchEnvelope} {tables next : SpoolTables} {value : EnqueueResult} {evicted : Nat}

theorem insertGap_unsigned
    (result : insertGap faults tables envelope.body.seq (bucketRange envelope.body.buckets).1
      (bucketRange envelope.body.buckets).2 (toVec envelope).utf8ByteSize
      "batch_exceeds_spool_limit" envelope.body.createdAt = .ok next) :
    (batchRow envelope).Unsigned := by
  obtain ⟨seq, seqRead, result⟩ := bind_ok result
  obtain ⟨minBucket, minRead, result⟩ := bind_ok result
  obtain ⟨maxBucket, maxRead, result⟩ := bind_ok result
  obtain ⟨lostBytes, lostRead, result⟩ := bind_ok result
  obtain ⟨createdAt, createdRead, _⟩ := bind_ok result
  rw [toSqlError_eq_ok] at seqRead minRead maxRead lostRead createdRead
  constructor
  · exact ⟨Int.natCast_nonneg _, Int.ofNat_lt.mpr (integer_ok seqRead).2⟩
  · exact ⟨Int.natCast_nonneg _, Int.ofNat_lt.mpr (integer_ok createdRead).2⟩
  · exact ⟨Int.natCast_nonneg _, Int.ofNat_lt.mpr (integer_ok lostRead).2⟩
  · have bound := optionalInteger_bound minRead
    rwa [integerOption_ok minRead] at bound
  · have bound := optionalInteger_bound maxRead
    rwa [integerOption_ok maxRead] at bound

theorem storeEnvelope_bounds (result : storeEnvelope faults limits envelope tables =
      .ok (value, next)) :
    (batchRow envelope).Unsigned ∧
      ((toVec envelope).utf8ByteSize ≤ limits.maxPayloadBytes.toNat →
        limits.maxPayloadBytes.toNat < 2 ^ 63) := by
  simp only [storeEnvelope] at result
  split at result
  · rename_i tooLarge
    obtain ⟨_, insertion, _⟩ := bind_ok result
    rw [sqlite_eq_ok] at insertion
    exact ⟨insertGap_unsigned insertion, by omega⟩
  · obtain ⟨row, params, result⟩ := bind_ok result
    obtain ⟨_, _, result⟩ := bind_ok result
    obtain ⟨_, enforcement, _⟩ := bind_ok result
    obtain ⟨_, _, enforcement⟩ := bind_ok enforcement
    obtain ⟨_, byteLimit, _⟩ := bind_ok enforcement
    rw [anyhow_eq_ok] at params byteLimit
    have unsigned := batchParams_unsigned params
    rw [batchParams_ok params] at unsigned
    exact ⟨unsigned, fun _ => (integer_ok byteLimit).2⟩

theorem enqueue_bounds {args : EnqueueArgs}
    (result : Spool.enqueue external faults limits args tables = (.ok value, next)) :
    (batchRow (tables.nextEnvelope external args)).Unsigned ∧
      ((toVec (tables.nextEnvelope external args)).utf8ByteSize ≤ limits.maxPayloadBytes.toNat →
        limits.maxPayloadBytes.toNat < 2 ^ 63) := by
  obtain ⟨_, _, body⟩ := bind_ok (transact_ok result)
  obtain ⟨seq, selected, body⟩ := bind_ok body
  obtain ⟨_, _, body⟩ := bind_ok body
  rw [sqlite_eq_ok] at selected
  rw [nextEnvelope_of_counter (selectNextSeq_ok selected).1]
  exact storeEnvelope_bounds body

variable {history : SpoolHistory}

structure NewGap (limits : SpoolLimits) (enqueued : List BatchEnvelope)
    (tables next : SpoolTables) (later : BatchEnvelope) (gap : GapRow) (envelope : BatchEnvelope)
    (reason : String) : Prop where
  records : gap.Records (enqueued ++ [later]) envelope later reason
  lost : Lost limits tables envelope later reason
  gone : batchRow envelope ∉ next.batches

section Enqueue

variable (recorded : history.Recorded external) (isSealed : envelope.Sealed external)
  (fresh : envelope.body.seq.toNat = history.enqueued.length)
include recorded fresh isSealed

theorem SpoolHistory.Recorded.evicted_gap (params : batchParams envelope = .ok (batchRow envelope))
    (fits : (toVec envelope).utf8ByteSize ≤ limits.maxPayloadBytes.toNat) {row : BatchRow}
    (evicted : row ∈ (SpoolTables.offered { history.tables with
        nextSeq := some (envelope.body.seq.toNat + 1 : Int) } envelope).evicted
      (ageCutoff envelope.body.createdAt limits.maxAgeSeconds) limits.maxPayloadBytes.toNat)
    (gone : row ∉ next.batches) :
    ∃ source reason, NewGap limits history.enqueued history.tables next envelope
      (row.gap (if row.createdAt < ageCutoff envelope.body.createdAt limits.maxAgeSeconds
        then "spool_age_limit" else "spool_byte_limit") envelope.body.createdAt) source reason := by
  have accounts := recorded.checked.accounted.accounts
  have inserted := accounts.insert isSealed fresh
  have offered := recorded.checked.offered isSealed fresh params
  obtain ⟨listed, dropped⟩ := List.mem_filter.mp evicted
  rw [SpoolTables.mem_inOrder] at listed
  simp only [Bool.not_eq_true', decide_eq_false_iff_not] at dropped
  have newest : ∀ other ∈ history.enqueued ++ [envelope],
      other.body.seq.toNat ≤ envelope.body.seq.toNat := by
    intro other member
    have below := inserted.seq_lt member
    rw [List.length_append, List.length_singleton] at below
    omega
  obtain ⟨source, belongs, rfl⟩ := inserted.stored row listed
  have columns : (batchRow source).Unsigned := offered.columns _ listed
  have created := (batchParams_unsigned params).createdAt.2
  simp only [batchRow] at created
  have different : source ≠ envelope := by
    rintro rfl
    apply dropped
    refine SpoolTables.newest_survives offered listed ?_ ?_ ?_
    · intro other held
      obtain ⟨another, member, rfl⟩ := inserted.stored other held
      exact Int.ofNat_le.mpr (newest another member)
    · exact Int.ofNat_le.mpr (Nat.sub_le _ _)
    · exact Int.ofNat_le.mpr fits
  have pending : batchRow source ∈ history.tables.batches := by
    rcases List.mem_append.mp listed with old | new
    · exact old
    · have seqs : source.body.seq.toNat = envelope.body.seq.toNat :=
        Int.ofNat_inj.mp (congrArg BatchRow.seq (List.mem_singleton.mp new))
      exact absurd (inserted.envelope_eq belongs (by simp) (UInt64.toNat_inj.mp seqs)) different
  have cutoff : ageCutoff envelope.body.createdAt limits.maxAgeSeconds =
      envelope.body.createdAt.toNat - limits.maxAgeSeconds.toNat := rfl
  have createdAt : (batchRow source).createdAt = source.body.createdAt.toNat := rfl
  refine ⟨source, _, ⟨belongs, by simp, rfl, columns, by omega⟩, ?_, gone⟩
  by_cases old : (batchRow source).createdAt <
      ageCutoff envelope.body.createdAt limits.maxAgeSeconds
  · rw [if_pos old]
    exact .expired pending (by omega)
  · rw [if_neg old]
    refine .crowded pending (by omega) ?_
    by_contra small
    exact dropped ((offered.survives_iff listed).mpr ⟨Int.not_lt.mp small, by omega⟩)

theorem SpoolHistory.Recorded.stored_gaps (columns : (batchRow envelope).Unsigned)
    (stored : Stored limits envelope { history.tables with
      nextSeq := some (envelope.body.seq.toNat + 1 : Int) } evicted next) :
    ∀ gap ∈ next.gaps, gap ∈ history.tables.gaps ∨ ∃ source reason,
      NewGap limits history.enqueued history.tables next envelope gap source reason := by
  intro gap member
  cases stored with
  | oversized tooLarge =>
      rcases List.mem_append.mp member with old | new
      · exact .inl old
      · rw [List.mem_singleton.mp new]
        have created := columns.createdAt.2
        simp only [batchRow] at created
        have absent : batchRow envelope ∉ history.tables.batches := fun held =>
          (recorded.checked.accounted.accounts.batch_ne_fresh fresh isSealed _ held).2 rfl
        exact .inr ⟨envelope, _, ⟨by simp, by simp, rfl, columns, by omega⟩,
          .oversized rfl tooLarge, absent⟩
  | kept fits params evictions settled =>
      have offered := recorded.checked.offered isSealed fresh params
      rw [(evictions.enforced offered settled).1] at member ⊢
      rcases List.mem_append.mp member with old | new
      · exact .inl old
      · obtain ⟨row, evicted, rfl⟩ := List.mem_map.mp new
        refine .inr (recorded.evicted_gap isSealed fresh params fits evicted fun kept => ?_)
        obtain ⟨_, dropped⟩ := List.mem_filter.mp evicted
        obtain ⟨_, survives⟩ := List.mem_filter.mp kept
        simp only [Bool.not_eq_true', decide_eq_false_iff_not] at dropped
        exact dropped (by simpa using survives)

end Enqueue

theorem Stored.totalBytes_lt {counter : Option Int} (bytes : tables.totalBytes < 2 ^ 63)
    (byteLimit : (toVec envelope).utf8ByteSize ≤ limits.maxPayloadBytes.toNat →
      limits.maxPayloadBytes.toNat < 2 ^ 63)
    (stored : Stored limits envelope { tables with nextSeq := counter } evicted next) :
    next.totalBytes < 2 ^ 63 := by
  cases stored with
  | oversized tooLarge => exact bytes
  | kept fits params evictions settled =>
      have within := settled_bytes settled
      have limit := byteLimit fits
      omega

theorem SpoolHistory.Recorded.acknowledge (recorded : history.Recorded external)
    (faults : SpoolFaults) (batchId checksum : String) :
    (history.acknowledge faults batchId checksum).Recorded external := by
  have accounted := recorded.checked.accounted.acknowledge faults batchId checksum
  rcases recorded.checked.accounted.acknowledge_cases faults batchId checksum with
    ⟨same, _⟩ | ⟨_, settled⟩
  · rw [same]
    exact recorded
  · rw [settled] at accounted ⊢
    have nonneg := recorded.checked.accounted.accounts.payloadBytes_nonneg
    refine ⟨⟨accounted, fun row kept => recorded.checked.columns row (List.mem_of_mem_filter kept)⟩,
      ?_, recorded.gaps⟩
    exact (SpoolTables.totalBytes_filter_le nonneg _).trans_lt recorded.bytes

theorem SpoolHistory.Recorded.step (recorded : history.Recorded external) (call : SpoolCall) :
    (history.step external call).Recorded external := by
  have checked := recorded.checked.step call
  cases call with
  | «open» faults limits =>
      obtain ⟨tables, current, after, tablesEq, _⟩ := history.step_open faults limits
      rw [after] at checked ⊢
      refine ⟨checked, ?_, ?_⟩
      · rcases tablesEq with rfl | rfl
        · exact recorded.bytes
        · exact recorded.bytes
      · rcases tablesEq with rfl | rfl
        · exact recorded.gaps
        · exact recorded.gaps
  | enqueue faults args =>
      rcases history.step_enqueue faults args with same | ⟨limits, value, next, _, result, after⟩
      · rw [same]
        exact recorded
      · rw [after] at checked ⊢
        obtain ⟨fresh, _, stored⟩ := recorded.checked.accounted.enqueue_ok result
        obtain ⟨columns, byteLimit⟩ := enqueue_bounds result
        refine ⟨checked, stored.totalBytes_lt recorded.bytes byteLimit, fun gap member => ?_⟩
        rcases recorded.stored_gaps (BatchEnvelope.new_sealed ..) fresh columns stored gap member with
          old | ⟨source, reason, new⟩
        · obtain ⟨source, later, reason, records⟩ := recorded.gaps gap old
          exact ⟨source, later, reason, records.more _⟩
        · exact ⟨source, _, reason, new.records⟩
  | acknowledge faults batchId checksum =>
      simp only [SpoolHistory.step]
      split
      · exact recorded
      · exact recorded.acknowledge faults batchId checksum

theorem recorded_initial (external : External) : ({} : SpoolHistory).Recorded external :=
  ⟨⟨⟨accounts_initial external, rfl⟩, by simp⟩, by simp [SpoolTables.totalBytes], by simp⟩

theorem SpoolHistory.run_recorded (external : External) (calls : List SpoolCall) :
    (SpoolHistory.run external calls).Recorded external :=
  run_invariant (recorded_initial external) fun _ call _ recorded => recorded.step call

theorem SpoolHistory.Recorded.step_gaps (recorded : history.Recorded external) {call : SpoolCall}
    {gap : GapRow} (member : gap ∈ (history.step external call).tables.gaps) :
    gap ∈ history.tables.gaps ∨ ∃ faults args limits source reason,
      call = .enqueue faults args ∧ history.limits = some limits ∧
      (history.step external call).enqueued =
        history.enqueued ++ [history.tables.nextEnvelope external args] ∧
      NewGap limits history.enqueued history.tables (history.step external call).tables
        (history.tables.nextEnvelope external args) gap source reason := by
  cases call with
  | «open» faults limits =>
      obtain ⟨tables, current, after, tablesEq, _⟩ := history.step_open faults limits
      rw [after] at member
      rcases tablesEq with rfl | rfl
      · exact .inl member
      · exact .inl member
  | enqueue faults args =>
      rcases history.step_enqueue faults args with same | ⟨limits, value, next, opened, result, after⟩
      · rw [same] at member
        exact .inl member
      · rw [after] at member ⊢
        obtain ⟨fresh, _, stored⟩ := recorded.checked.accounted.enqueue_ok result
        rcases recorded.stored_gaps (BatchEnvelope.new_sealed ..) fresh (enqueue_bounds result).1
          stored gap member with old | ⟨source, reason, new⟩
        · exact .inl old
        · exact .inr ⟨faults, args, limits, source, reason, rfl, opened, rfl, new⟩
  | acknowledge faults batchId checksum =>
      simp only [SpoolHistory.step] at member
      split at member
      · exact .inl member
      · rcases recorded.checked.accounted.acknowledge_cases faults batchId checksum with
          ⟨same, _⟩ | ⟨_, settled⟩
        · rw [same] at member
          exact .inl member
        · rw [settled] at member
          exact .inl member

theorem SpoolHistory.run_lostAt (external : External) (calls : List SpoolCall) {gap : GapRow}
    (member : gap ∈ (SpoolHistory.run external calls).tables.gaps) :
    ∃ before faults args limits envelope later reason,
      LostAt external calls before faults args limits envelope later reason ∧
      gap.Records (SpoolHistory.run external calls).enqueued envelope later reason := by
  induction calls using List.reverseRecOn with
  | nil => simp [SpoolHistory.run] at member
  | append_singleton calls call ih =>
      have last : SpoolHistory.run external (calls ++ [call]) =
          (SpoolHistory.run external calls).step external call := run_snoc call
      have recorded := SpoolHistory.run_recorded external calls
      rw [last] at member
      rcases recorded.step_gaps member with
        old | ⟨faults, args, limits, source, reason, rfl, opened, enqueued, new⟩
      · obtain ⟨before, faults, args, limits, envelope, later, reason, lost, records⟩ := ih old
        refine ⟨before, faults, args, limits, envelope, later, reason, ⟨?_, lost.opened,
          lost.numbered, lost.enqueued, lost.gone, lost.lost⟩, ?_⟩
        · exact lost.call.trans (List.prefix_append _ _)
        · rw [last]
          have more := @SpoolHistory.enqueued_step external (SpoolHistory.run external calls) call
          exact ⟨more records.belongs, more records.caused, records.same, records.columns,
            records.createdAt⟩
      · refine ⟨calls, faults, args, limits, source, _, reason, ⟨List.prefix_rfl, opened, rfl, ?_, ?_,
          new.lost⟩, ?_⟩
        · rw [last, enqueued]
        · rw [last]
          exact new.gone
        · rw [last, enqueued]
          exact new.records

end Storing

section Reports

variable {external : External} {history : SpoolHistory}

theorem SpoolHistory.Recorded.gaps_ok (recorded : history.Recorded external) :
    ∃ events, Spool.gaps noFaults history.tables = .ok events ∧
      events.map (fun event => (event.seq.toNat : Int)) =
        (orderBy (·.seq) history.tables.gaps).map (·.seq) ∧
      ∀ event ∈ events, ∃ gap ∈ history.tables.gaps, readGap gap = .ok event := by
  have readable : ∀ gap ∈ orderBy (·.seq) history.tables.gaps, ∃ event, readGap gap = .ok event := by
    intro gap listed
    obtain ⟨envelope, later, reason, records⟩ := recorded.gaps gap (mem_orderBy.mp listed)
    exact ⟨_, records.readGap_eq⟩
  obtain ⟨events, read⟩ := mapM_of_exists readable
  refine ⟨events, ?_, mapM_keys (fun _ _ => readGap_ok) read, ?_⟩
  · rw [Spool.gaps, read]
    rfl
  · intro event member
    obtain ⟨gap, listed, same⟩ := mapM_mem read member
    exact ⟨gap, mem_orderBy.mp listed, same⟩

theorem mem_gaps_iff {gaps : List GapRow} {events : List GapEvent}
    (seqs : events.map (fun event => (event.seq.toNat : Int)) =
      (orderBy (·.seq) gaps).map (·.seq)) (number : Int) :
    number ∈ gaps.map (·.seq) ↔ ∃ event ∈ events, (event.seq.toNat : Int) = number := by
  rw [← List.mem_map, seqs]
  exact ((orderBy_perm (·.seq) gaps).map (·.seq)).mem_iff.symm

variable {enqueued : List BatchEnvelope} {acknowledged : List BatchRow} {tables : SpoolTables}

theorem Accounts.row_mem_iff (accounts : Accounts external enqueued acknowledged tables)
    {rows : List BatchRow} (known : ∀ row ∈ rows, ∃ envelope ∈ enqueued, row = batchRow envelope)
    {envelope : BatchEnvelope} (belongs : envelope ∈ enqueued) :
    batchRow envelope ∈ rows ↔ (envelope.body.seq.toNat : Int) ∈ rows.map (·.seq) := by
  constructor
  · exact fun member => List.mem_map.mpr ⟨_, member, rfl⟩
  · intro listed
    obtain ⟨row, member, same⟩ := List.mem_map.mp listed
    obtain ⟨source, enqueued, rfl⟩ := known row member
    have seqs : source.body.seq.toNat = envelope.body.seq.toNat := Int.ofNat_inj.mp same
    rwa [← accounts.envelope_eq enqueued belongs (UInt64.toNat_inj.mp seqs)]

theorem Accounts.gap_iff (accounts : Accounts external enqueued acknowledged tables)
    {envelope : BatchEnvelope} (belongs : envelope ∈ enqueued) :
    ((envelope.body.seq.toNat : Int) ∈ tables.gaps.map (·.seq) ↔
        batchRow envelope ∉ tables.batches ∧ batchRow envelope ∉ acknowledged) ∧
      ¬(batchRow envelope ∈ tables.batches ∧ batchRow envelope ∈ acknowledged) := by
  have number : (envelope.body.seq.toNat : Int) ∈ sequenceNumbers enqueued.length :=
    List.mem_map_of_mem (List.mem_range.mpr (accounts.seq_lt belongs))
  have listed := accounts.partition.mem_iff.mpr number
  obtain ⟨parts, _, settled⟩ := List.nodup_append.mp accounts.seq_nodup
  obtain ⟨_, _, lost⟩ := List.nodup_append.mp parts
  rw [accounts.row_mem_iff accounts.stored belongs, accounts.row_mem_iff accounts.settled belongs]
  rw [List.mem_append, List.mem_append] at listed
  refine ⟨⟨fun gap => ⟨fun held => ?_, fun acked => ?_⟩, ?_⟩, ?_⟩
  · exact lost _ held _ gap rfl
  · exact settled _ (List.mem_append_right _ gap) _ acked rfl
  · rintro ⟨notPending, notAcknowledged⟩
    rcases listed with (pending | gap) | acked
    · exact absurd pending notPending
    · exact gap
    · exact absurd acked notAcknowledged
  · rintro ⟨held, acked⟩
    exact settled _ (List.mem_append_left _ held) _ acked rfl

theorem SpoolHistory.Recorded.status_ok (recorded : history.Recorded external)
    (few : history.enqueued.length < 2 ^ 63) :
    ∃ status, Spool.status noFaults history.tables = .ok status ∧
      status.pendingBatches.toNat = history.tables.batches.length ∧
      (status.pendingPayloadBytes.toNat : Int) = history.tables.totalBytes ∧
      status.gapEvents.toNat = history.tables.gaps.length := by
  have accounts := recorded.checked.accounted.accounts
  have positive := SpoolTables.totalBytes_nonneg accounts.payloadBytes_nonneg
  have bytes := recorded.bytes
  have counts := accounts.partition.length_eq
  simp only [List.length_append, List.length_map, sequenceNumbers, List.length_range] at counts
  have nonneg : ∀ value ∈ history.tables.batches.map (·.payloadBytes), 0 ≤ value := by
    intro value member
    obtain ⟨row, belongs, rfl⟩ := List.mem_map.mp member
    exact accounts.payloadBytes_nonneg row belongs
  have total : sumOf (history.tables.batches.map (·.payloadBytes)) =
      .ok (history.tables.totalBytes.toNat : Int) := by
    rw [sumOf_of_nonneg nonneg, ← SpoolTables.totalBytes, if_pos bytes, Int.toNat_of_nonneg positive]
  have pendingBatches := toNat_ofNat_of_integer
    (show history.tables.batches.length < 2 ^ 63 by omega)
  have pendingBytes := toNat_ofNat_of_integer
    (show history.tables.totalBytes.toNat < 2 ^ 63 by omega)
  have gapEvents := toNat_ofNat_of_integer (show history.tables.gaps.length < 2 ^ 63 by omega)
  have positiveBytes := Int.toNat_of_nonneg positive
  refine ⟨{
      pendingBatches := UInt64.ofNat history.tables.batches.length
      pendingPayloadBytes := UInt64.ofNat history.tables.totalBytes.toNat
      gapEvents := UInt64.ofNat history.tables.gaps.length
    }, ?_, pendingBatches, ?_, gapEvents⟩
  · rw [Spool.status, runs_noFaults, sqlite_ok, ok_bind, total, sqlite_ok, ok_bind,
      unsigned_of_nat (by omega), sqlite_ok, ok_bind, unsigned_of_nat (by omega), sqlite_ok, ok_bind,
      unsigned_of_nat (by omega), sqlite_ok, ok_bind, pure_eq_ok]
  · dsimp only
    rw [pendingBytes, positiveBytes]

end Reports

/-- In every state that a run of calls reaches, `gaps` lists in the order of their numbers the
batches enqueued that are neither pending nor acknowledged, each with its columns and with the time
and the reason of the call that lost it; and `status` counts what is there. -/
theorem gaps_report_every_loss (external : External) (calls : List SpoolCall)
    (few : (SpoolHistory.run external calls).enqueued.length < 2 ^ 63) :
    let history := SpoolHistory.run external calls
    ∃ events status, Spool.gaps noFaults history.tables = .ok events ∧
      Spool.status noFaults history.tables = .ok status ∧
      events.Pairwise (fun first second => first.seq < second.seq) ∧
      (∀ event ∈ events, ∃ envelope ∈ history.enqueued, ∃ before faults args limits later,
        LostAt external calls before faults args limits envelope later event.reason ∧
        event = envelope.gapEvent later event.reason ∧
        event.lostBytes.toNat = (toVec envelope).utf8ByteSize) ∧
      (∀ envelope ∈ history.enqueued,
        ((∃ event ∈ events, event.seq = envelope.body.seq) ↔
          batchRow envelope ∉ history.tables.batches ∧
            batchRow envelope ∉ history.acknowledged) ∧
        ¬(batchRow envelope ∈ history.tables.batches ∧
          batchRow envelope ∈ history.acknowledged)) ∧
      status.pendingBatches.toNat = history.tables.batches.length ∧
      (status.pendingPayloadBytes.toNat : Int) = history.tables.totalBytes ∧
      status.gapEvents.toNat = events.length ∧
      status.pendingBatches.toNat + status.gapEvents.toNat + history.acknowledged.length =
        history.enqueued.length := by
  intro history
  have recorded : history.Recorded external := SpoolHistory.run_recorded external calls
  have accounts := recorded.checked.accounted.accounts
  obtain ⟨events, read, seqs, events_of⟩ := recorded.gaps_ok
  obtain ⟨status, counted, pendingBatches, bytes, gapEvents⟩ := recorded.status_ok few
  have gapCount : events.length = history.tables.gaps.length := by
    have lengths := congrArg List.length seqs
    rwa [List.length_map, List.length_map, (orderBy_perm _ _).length_eq] at lengths
  have total := accounts.partition.length_eq
  simp only [List.length_append, List.length_map, sequenceNumbers, List.length_range] at total
  refine ⟨events, status, read, counted, ?_, ?_, ?_, pendingBatches, bytes,
    by rw [gapEvents, gapCount], by rw [pendingBatches, gapEvents]; exact total⟩
  · have distinct : (history.tables.gaps.map (·.seq)).Nodup :=
      (List.nodup_append.mp (List.nodup_append.mp accounts.seq_nodup).1).2.1
    have increasing := List.pairwise_map.mpr (orderBy_lt distinct)
    rw [← seqs, List.pairwise_map] at increasing
    exact increasing.imp fun less => UInt64.lt_iff_toNat_lt.mpr (Int.ofNat_lt.mp less)
  · intro event member
    obtain ⟨gap, listed, same⟩ := events_of event member
    obtain ⟨before, faults, args, limits, envelope, later, reason, lost, records⟩ :=
      SpoolHistory.run_lostAt external calls listed
    rw [records.readGap_eq] at same
    cases same
    have bound := records.columns.payloadBytes.2
    simp only [batchRow] at bound
    exact ⟨envelope, records.belongs, before, faults, args, limits, later, lost, rfl,
      toNat_ofNat_of_integer (by omega)⟩
  · intro envelope belongs
    obtain ⟨lost, apart⟩ := accounts.gap_iff belongs
    refine ⟨?_, apart⟩
    rw [← lost, mem_gaps_iff seqs]
    constructor
    · rintro ⟨event, member, same⟩
      exact ⟨event, member, by rw [same]⟩
    · rintro ⟨event, member, same⟩
      exact ⟨event, member, UInt64.toNat_inj.mp (Int.ofNat_inj.mp same)⟩

/-! Two batches that are over the byte limit together. -/

def gappedCalls : List SpoolCall := [
  .open noFaults tightLimits, .enqueue noFaults (steppedBatch 100),
  .enqueue noFaults (steppedBatch 10)]

theorem gaps_report_every_loss_gapped :
    ∃ events status,
      Spool.gaps noFaults (SpoolHistory.run steppedExternal gappedCalls).tables = .ok events ∧
      Spool.status noFaults (SpoolHistory.run steppedExternal gappedCalls).tables = .ok status ∧
      events.Pairwise (fun first second => first.seq < second.seq) ∧
      (∀ event ∈ events, ∃ before faults args limits envelope later,
        LostAt steppedExternal gappedCalls before faults args limits envelope later event.reason) ∧
      status.gapEvents.toNat = events.length := by
  have few : (SpoolHistory.run steppedExternal gappedCalls).enqueued.length < 2 ^ 63 := by
    decide +kernel
  obtain ⟨events, status, read, counted, ordered, lost, _, _, _, gapEvents, _⟩ :=
    gaps_report_every_loss steppedExternal gappedCalls few
  refine ⟨events, status, read, counted, ordered, fun event member => ?_, gapEvents⟩
  obtain ⟨envelope, _, before, faults, args, limits, later, lostAt, _⟩ := lost event member
  exact ⟨before, faults, args, limits, envelope, later, lostAt⟩

example : (Spool.gaps noFaults (SpoolHistory.run steppedExternal gappedCalls).tables).map
    (fun events => events.map (·.reason)) = .ok ["spool_byte_limit"] := by
  decide +kernel

end FlowObservability
