import FlowObservability.SpoolBudget

/-!
How many rows the spool holds over a run. Gap rows are never deleted, so only a run that evicts
nothing keeps their number down.
-/

namespace FlowObservability

open Runs Table Transaction

def SpoolTables.rows (tables : SpoolTables) : Nat := tables.batches.length + tables.gaps.length

def SpoolCall.timestamp : SpoolCall → Option UInt64
  | .open _ _ => none
  | .enqueue _ args => some args.createdAt
  | .acknowledge _ _ _ => none

structure Schedule (limits : SpoolLimits) (calls : List SpoolCall) : Prop where
  fixed : ∀ call ∈ calls, call.OpensWith limits
  chronological : (calls.filterMap (·.timestamp)).Pairwise (· ≤ ·)

/-- The call has nothing to evict: its batch fits the byte limit together with the pending ones,
and none of these has expired. -/
def SpoolCall.HasRoom (external : External) (limits : SpoolLimits) (tables : SpoolTables) :
    SpoolCall → Prop
  | .open _ _ => True
  | .enqueue _ args =>
    tables.totalBytes + (toVec (tables.nextEnvelope external args)).utf8ByteSize ≤
        limits.maxPayloadBytes.toNat ∧
      ∀ row ∈ tables.batches, (ageCutoff args.createdAt limits.maxAgeSeconds : Int) ≤ row.createdAt
  | .acknowledge _ _ _ => True

theorem toVec_size_pos (envelope : BatchEnvelope) : 0 < (toVec envelope).utf8ByteSize := by
  have mark : "\x7b".utf8ByteSize = 1 := rfl
  simp only [toVec, BatchEnvelope.toJson, Json.render, String.utf8ByteSize_append]
  omega

theorem due_eq_none {tables : SpoolTables} {cutoff : Nat} {maxPayloadBytes : Int}
    (young : ∀ row ∈ tables.batches, (cutoff : Int) ≤ row.createdAt)
    (fits : tables.totalBytes ≤ maxPayloadBytes) : tables.due cutoff maxPayloadBytes = none := by
  simp only [SpoolTables.due, candidateRow, List.head?_eq_none_iff, orderBy_eq_nil,
    List.filter_eq_nil_iff, Bool.or_eq_true, decide_eq_true_eq, not_or, not_lt]
  exact fun row member => ⟨young row member, fits⟩

section Room

variable {external : External} {enqueued : List BatchEnvelope} {acknowledged : List BatchRow}
  {tables next : SpoolTables} {limits : SpoolLimits} {envelope : BatchEnvelope} {evicted : Nat}

theorem stored_due_none {counter : Option Int}
    (fits : tables.totalBytes + (toVec envelope).utf8ByteSize ≤ limits.maxPayloadBytes.toNat)
    (young : ∀ row ∈ tables.batches,
      (ageCutoff envelope.body.createdAt limits.maxAgeSeconds : Int) ≤ row.createdAt) :
    SpoolTables.due { tables with
        nextSeq := counter, batches := tables.batches ++ [batchRow envelope] }
      (ageCutoff envelope.body.createdAt limits.maxAgeSeconds) limits.maxPayloadBytes.toNat =
        none := by
  apply due_eq_none
  · intro row member
    rcases List.mem_append.mp member with old | new
    · exact young row old
    · rw [List.mem_singleton.mp new]
      have now : ageCutoff envelope.body.createdAt limits.maxAgeSeconds ≤
          envelope.body.createdAt.toNat := Nat.sub_le _ _
      exact Int.ofNat_le.mpr now
  · simpa [SpoolTables.totalBytes, batchRow] using fits

theorem Stored.evicted_eq_zero_iff (nonneg : ∀ row ∈ tables.batches, 0 ≤ row.payloadBytes)
    {counter : Option Int}
    (stored : Stored limits envelope { tables with nextSeq := counter } evicted next) :
    evicted = 0 ↔ tables.totalBytes + (toVec envelope).utf8ByteSize ≤ limits.maxPayloadBytes.toNat ∧
      ∀ row ∈ tables.batches,
        (ageCutoff envelope.body.createdAt limits.maxAgeSeconds : Int) ≤ row.createdAt := by
  have positive := SpoolTables.totalBytes_nonneg nonneg
  have total : SpoolTables.totalBytes { tables with
      nextSeq := counter, batches := tables.batches ++ [batchRow envelope] } =
      tables.totalBytes + (toVec envelope).utf8ByteSize := by
    simp [SpoolTables.totalBytes, batchRow]
  cases stored with
  | oversized tooLarge =>
      constructor
      · omega
      · rintro ⟨fits, _⟩
        omega
  | kept fits params evictions settled =>
      constructor
      · intro nothing
        subst nothing
        cases evictions with
        | done =>
            have within := settled_bytes settled
            dsimp only at within
            refine ⟨by omega, fun row member => ?_⟩
            exact (due_none settled row (List.mem_append_left _ member)).1
      · rintro ⟨within, young⟩
        cases evictions with
        | done => rfl
        | round due rest =>
            rw [stored_due_none within young] at due
            cases due

theorem Accounts.batches_le_bytes (accounts : Accounts external enqueued acknowledged tables) :
    tables.batches.length ≤ tables.totalBytes := by
  have each : ∀ row ∈ tables.batches, 1 ≤ row.payloadBytes := by
    intro row member
    obtain ⟨envelope, _, same⟩ := accounts.stored row member
    have size := toVec_size_pos envelope
    rw [same]
    exact Int.ofNat_le.mpr size
  unfold SpoolTables.totalBytes
  revert each
  induction tables.batches with
  | nil => simp
  | cons row rest ih =>
      intro each
      obtain ⟨first, later⟩ := List.forall_mem_cons.mp each
      have shorter := ih later
      simp only [List.map_cons, List.sum_cons, List.length_cons]
      omega

end Room

section Run

variable {external : External} {limits : SpoolLimits} {history : SpoolHistory}

theorem SpoolHistory.Budgeted.gaps_kept (budgeted : history.Budgeted external limits)
    {call : SpoolCall} (fixed : call.OpensWith limits)
    (room : call.HasRoom external limits history.tables) :
    (history.step external call).tables.gaps.length = history.tables.gaps.length := by
  cases call with
  | «open» faults other =>
      obtain ⟨tables, current, opened, same | created, _⟩ := history.step_open faults other
      · rw [opened, same]
      · rw [opened, created]
  | enqueue faults args =>
      rcases history.step_enqueue faults args with
        same | ⟨current, value, next, opened, result, after⟩
      · rw [same]
      · obtain rfl := budgeted.fixed current opened
        obtain ⟨fresh, _, stored⟩ := budgeted.accounted.enqueue_ok result
        have accounts := budgeted.accounted.accounts
        have gaps := (accounts.store (BatchEnvelope.new_sealed ..) fresh stored).2
        have nothing : value.evictedBatches = 0 :=
          (stored.evicted_eq_zero_iff accounts.payloadBytes_nonneg).mpr room
        rw [after]
        simp only [gaps, nothing, Nat.add_zero]
  | acknowledge faults batchId checksum =>
      rcases budgeted.accounted.step_acknowledge faults batchId checksum with same | settled
      · rw [same]
      · rw [settled]

theorem SpoolHistory.run_gaps {calls : List SpoolCall}
    (fixed : ∀ call ∈ calls, call.OpensWith limits)
    (room : ∀ before call after, calls = before ++ call :: after →
      call.HasRoom external limits (SpoolHistory.run external before).tables) :
    (SpoolHistory.run external calls).tables.gaps = [] := by
  induction calls using List.reverseRecOn with
  | nil => rfl
  | append_singleton calls call ih =>
      have earlier := ih (fun other member => fixed other (by simp [member])) (by
        intro before other after split
        apply room before other (after ++ [call])
        rw [split]
        simp)
      have budgeted := SpoolHistory.run_budgeted external
        fun other member => fixed other (List.mem_append_left [call] member)
      have kept := budgeted.gaps_kept (fixed call (by simp)) (room calls call [] rfl)
      rw [earlier] at kept
      rw [SpoolHistory.run, run_snoc]
      exact List.length_eq_zero_iff.mp kept

end Run

/-- In a run where every enqueue has room the spool never holds more rows than the byte limit
has bytes. -/
theorem rows_bounded_of_room (external : External) (limits : SpoolLimits) (calls : List SpoolCall)
    (schedule : Schedule limits calls)
    (room : ∀ before call after, calls = before ++ call :: after →
      call.HasRoom external limits (SpoolHistory.run external before).tables) :
    ∀ reached, reached <+: calls →
      (SpoolHistory.run external reached).tables.rows ≤ limits.maxPayloadBytes.toNat := by
  rintro reached ⟨rest, rfl⟩
  have fixed : ∀ call ∈ reached, call.OpensWith limits := fun call member =>
    schedule.fixed call (List.mem_append_left rest member)
  have budgeted := SpoolHistory.run_budgeted external fixed
  have bytes := budgeted.bytes
  have batches := budgeted.accounted.accounts.batches_le_bytes
  have gaps := SpoolHistory.run_gaps fixed (by
    intro before call after split
    apply room before call (after ++ rest)
    rw [split]
    simp)
  rw [SpoolTables.rows, gaps, List.length_nil]
  omega

/-! A spool of one byte, and a batch without buckets that comes again and again. -/

def crowdedLimits : SpoolLimits := { maxPayloadBytes := 1, maxAgeSeconds := 3600 }

def hourlyBatch : EnqueueArgs where
  nodeId := "g"
  bootId := "b"
  createdAt := 0
  buckets := []
  diagnostics := {}

def crowdedCalls (count : Nat) : List SpoolCall :=
  .open noFaults crowdedLimits :: List.replicate count (.enqueue noFaults hourlyBatch)

theorem toHex_length (digest : Vector UInt8 32) : (toHex digest).length = 64 := by
  simp [toHex, List.length_flatMap]

theorem decimal_size {value : Nat} (bound : value < 10 ^ 20) : (toString value).length ≤ 20 :=
  (Nat.length_repr_le_iff (by omega)).mpr bound

theorem checksumPrefix_length (checksum : String) : (checksumPrefix checksum).length ≤ 16 := by
  simp only [checksumPrefix, String.length_ofList]
  exact List.length_take_le _ _

theorem EnqueueArgs.batchId_length (external : External) (args : EnqueueArgs) (seq : UInt64) :
    (args.envelope external seq).batchId.length ≤ args.nodeId.length + args.bootId.length + 39 := by
  have digits : (toString seq.toNat).length ≤ 20 :=
    decimal_size (Nat.lt_trans seq.toNat_lt (by norm_num))
  have short := checksumPrefix_length (args.envelope external seq).checksum
  have parts : (args.envelope external seq).batchId =
      args.nodeId ++ ":" ++ args.bootId ++ ":" ++ toString seq.toNat ++ ":" ++
        checksumPrefix (args.envelope external seq).checksum := rfl
  have mark : ":".length = 1 := rfl
  simp only [parts, String.length_append]
  omega

def EnqueueArgs.ownBytes (args : EnqueueArgs) : Nat :=
  (Json.quote args.nodeId).utf8ByteSize + (Json.quote args.bootId).utf8ByteSize +
    (toString args.createdAt.toNat).utf8ByteSize +
    (Json.renderItems (args.buckets.map FlowBucket.toJson)).utf8ByteSize +
    args.diagnostics.toJson.render.utf8ByteSize

theorem EnqueueArgs.envelope_size (external : External) (args : EnqueueArgs) (seq : UInt64) :
    args.ownBytes < (toVec (args.envelope external seq)).utf8ByteSize ∧
      (toVec (args.envelope external seq)).utf8ByteSize ≤
        args.ownBytes + 6 * (args.nodeId.length + args.bootId.length) + 850 := by
  have batchId := args.batchId_length external seq
  generalize named : args.envelope external seq = envelope at batchId
  have digits : (toString seq.toNat).length ≤ 20 :=
    decimal_size (Nat.lt_trans seq.toNat_lt (by norm_num))
  have digitBytes := Text.utf8ByteSize_le (toString seq.toNat)
  have checksum : envelope.checksum.length = 64 := by
    rw [← named]
    exact toHex_length _
  have checksumBytes := Json.quote_size envelope.checksum
  have batchIdBytes := Json.quote_size envelope.batchId
  have body : envelope.body = {
      schemaVersion := 1, nodeId := args.nodeId, bootId := args.bootId, seq
      createdAt := args.createdAt, buckets := args.buckets, diagnostics := args.diagnostics } := by
    rw [← named]
    rfl
  have names :
    (Json.quote "batch_id").utf8ByteSize = 10 ∧ (Json.quote "checksum").utf8ByteSize = 10 ∧
      (Json.quote "body").utf8ByteSize = 6 ∧ (Json.quote "schema_version").utf8ByteSize = 16 ∧
      (Json.quote "node_id").utf8ByteSize = 9 ∧ (Json.quote "boot_id").utf8ByteSize = 9 ∧
      (Json.quote "seq").utf8ByteSize = 5 ∧ (Json.quote "created_at").utf8ByteSize = 12 ∧
      (Json.quote "buckets").utf8ByteSize = 9 ∧
      (Json.quote "diagnostics").utf8ByteSize = 13 := by decide
  have marks : "\x7b".utf8ByteSize = 1 ∧ "\x7d".utf8ByteSize = 1 ∧ "[".utf8ByteSize = 1 ∧
      "]".utf8ByteSize = 1 ∧ ":".utf8ByteSize = 1 ∧ ",".utf8ByteSize = 1 ∧
      (toString 1).utf8ByteSize = 1 := by decide
  simp only [toVec, BatchEnvelope.toJson, BatchBody.toJson, body, EnqueueArgs.ownBytes,
    Json.render, Json.renderFields, String.utf8ByteSize_append, names, marks, UInt16.toNat_one]
  omega

theorem hourlyBatch_size (external : External) (seq : UInt64) :
    1 < (toVec (hourlyBatch.envelope external seq)).utf8ByteSize ∧
      (toVec (hourlyBatch.envelope external seq)).utf8ByteSize < 2 ^ 63 := by
  have size := hourlyBatch.envelope_size external seq
  have own : hourlyBatch.ownBytes = 72 := by decide
  have names : hourlyBatch.nodeId.length = 1 ∧ hourlyBatch.bootId.length = 1 := by decide
  omega

theorem hourlyBatch_lost (external : External) {tables : SpoolTables} {count : Nat}
    (bound : count < 2 ^ 63) (counter : tables.nextSeq = some (count : Int))
    (fresh : ∀ gap ∈ tables.gaps, gap.seq ≠ (count : Int)) :
    ∃ value gap, Spool.enqueue external noFaults crowdedLimits hourlyBatch tables =
      (.ok value, { tables with
        nextSeq := some ((count + 1 : Nat) : Int), gaps := tables.gaps ++ [gap] }) := by
  obtain ⟨large, small⟩ := hourlyBatch_size external (UInt64.ofNat count)
  have wide : count < 2 ^ 64 := by omega
  have seqNat : (UInt64.ofNat count).toNat = count := UInt64.toNat_ofNat_of_lt' wide
  have selected := selectNextSeq_of_counter bound counter
  have free := gap_free fresh
  have oversized : crowdedLimits.maxPayloadBytes.toNat <
      (toVec (hourlyBatch.envelope external (UInt64.ofNat count))).utf8ByteSize := large
  have body : (hourlyBatch.envelope external (UInt64.ofNat count)).body.seq = UInt64.ofNat count :=
    rfl
  have created : (hourlyBatch.envelope external (UInt64.ofNat count)).body.createdAt = 0 := rfl
  have buckets : (hourlyBatch.envelope external (UInt64.ofNat count)).body.buckets = [] := rfl
  have now : integer (UInt64.toNat 0) "gap created_at" = .ok 0 := by decide
  refine ⟨{
      batchId := (hourlyBatch.envelope external (UInt64.ofNat count)).batchId
      evictedBatches := 1 }, {
      seq := count, minBucket := none, maxBucket := none
      lostBytes := (toVec (hourlyBatch.envelope external (UInt64.ofNat count))).utf8ByteSize
      reason := "batch_exceeds_spool_limit", createdAt := 0 }, transact_of_ok ?_⟩
  simp only [enqueueBody, runs_noFaults, sqlite_ok, ok_bind, selected, updateNextSeq, pure_eq_ok,
    storeEnvelope, oversized, ↓reduceIte, insertGap, body, created, buckets, seqNat,
    integer_of_lt "gap seq" bound, integer_of_lt "gap lost_bytes" small, now, toSqlError_ok,
    bucketRange, List.map_nil, free, counter]
  rfl

theorem crowded_rows (external : External) (count : Nat) (bound : count ≤ 2 ^ 63) :
    (SpoolHistory.run external (crowdedCalls count)).tables.nextSeq = some (count : Int) ∧
      (SpoolHistory.run external (crowdedCalls count)).limits = some crowdedLimits ∧
      (SpoolHistory.run external (crowdedCalls count)).tables.gaps.length = count := by
  induction count with
  | zero => exact ⟨rfl, rfl, rfl⟩
  | succ count ih =>
      obtain ⟨counter, opened, gaps⟩ := ih (by omega)
      have accounts := (SpoolHistory.run_accounted external (crowdedCalls count)).accounts
      have total := accounts.counter
      simp only [SpoolTables.counter, counter, Option.getD_some] at total
      obtain ⟨value, gap, result⟩ := hourlyBatch_lost external (by omega) counter (by
        intro gap member
        have below := accounts.number_lt
          (List.mem_append_left _ (List.mem_append_right _ (List.mem_map_of_mem member)))
        omega)
      have snoc : crowdedCalls (count + 1) =
          crowdedCalls count ++ [.enqueue noFaults hourlyBatch] := by
        simp [crowdedCalls, List.replicate_succ']
      rw [snoc, SpoolHistory.run, run_snoc]
      rw [SpoolHistory.run] at counter opened gaps result
      simp only [SpoolHistory.step, opened, SpoolHistory.enqueue, result]
      simp [gaps]

theorem crowdedCalls_schedule (count : Nat) : Schedule crowdedLimits (crowdedCalls count) := by
  constructor
  · intro call member
    rcases List.mem_cons.mp member with rfl | later
    · rfl
    · rw [List.eq_of_mem_replicate later]
      trivial
  · simp [crowdedCalls, SpoolCall.timestamp, List.pairwise_replicate]

/-- The gaps of the hourly batches exceed every bound below the numbers there are for a batch. -/
theorem rows_unbounded :
    (Spool.open noFaults crowdedLimits {}).1 = .ok { limits := crowdedLimits, maxPageCount := 4097 } ∧
    ∀ external, ¬∃ bound < 2 ^ 63, ∀ calls, Schedule crowdedLimits calls →
      (SpoolHistory.run external calls).tables.rows ≤ bound := by
  refine ⟨rfl, ?_⟩
  rintro external ⟨bound, small, bounded⟩
  have reached := crowded_rows external (bound + 1) (by omega)
  have few := bounded (crowdedCalls (bound + 1)) (crowdedCalls_schedule (bound + 1))
  rw [SpoolTables.rows, reached.2.2] at few
  omega

/-! Three batches, of which the first is acknowledged before the third. -/

def steadyLimits : SpoolLimits := { maxPayloadBytes := 2000, maxAgeSeconds := 3600 }

def steadyCalls : List SpoolCall := [
  .open noFaults steadyLimits,
  .enqueue noFaults smallBatch,
  .enqueue noFaults largeBatch,
  .acknowledge noFaults (smallBatch.envelope budgetExternal 0).batchId
    (smallBatch.envelope budgetExternal 0).checksum,
  .enqueue noFaults largeBatch]

instance (external : External) (limits : SpoolLimits) (tables : SpoolTables) (call : SpoolCall) :
    Decidable (call.HasRoom external limits tables) :=
  match call with
  | .open _ _ => .isTrue trivial
  | .enqueue _ _ => inferInstanceAs (Decidable (_ ∧ _))
  | .acknowledge _ _ _ => .isTrue trivial

theorem rows_bounded_of_room_hourly :
    (SpoolHistory.run budgetExternal steadyCalls).tables.batches.length = 2 ∧
      ∀ reached, reached <+: steadyCalls →
        (SpoolHistory.run budgetExternal reached).tables.rows ≤ 2000 := by
  have schedule : Schedule steadyLimits steadyCalls := by
    constructor
    · simp [steadyCalls, SpoolCall.OpensWith]
    · simp only [steadyCalls, SpoolCall.timestamp]
      decide
  have room : ∀ number < 5, ∀ call ∈ steadyCalls[number]?,
      call.HasRoom budgetExternal steadyLimits
        (SpoolHistory.run budgetExternal (steadyCalls.take number)).tables := by
    decide +kernel
  refine ⟨by decide +kernel, rows_bounded_of_room budgetExternal steadyLimits _ schedule ?_⟩
  intro before call after split
  have number : before.length < 5 := by
    have length := congrArg List.length split
    simp only [steadyCalls, List.length_append, List.length_cons, List.length_nil] at length
    omega
  have found := room before.length number call (by simp [split])
  rwa [split, List.take_left] at found

end FlowObservability
