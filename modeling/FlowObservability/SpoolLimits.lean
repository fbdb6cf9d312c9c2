import FlowObservability.Library.Words
import FlowObservability.SpoolAccount
import FlowObservability.SpoolBudget
import FlowObservability.SpoolNeedless

/-!
The limits of the command line, multiplied out in `u64`, and what becomes of them: in force on the
connection, in the page cap, and in the INTEGER columns of each `enqueue`.
-/

namespace FlowObservability

open Runs Table Transaction Words

structure LimitArgs where
  maxSpoolMib : UInt64 := 128
  maxSpoolHours : UInt64 := 24
  deriving DecidableEq, Repr

def LimitArgs.limits (args : LimitArgs) : SpoolLimits where
  maxPayloadBytes := args.maxSpoolMib * 1024 * 1024
  maxAgeSeconds := args.maxSpoolHours * 60 * 60

/-- The values an `enqueue` of the envelope computes with fit INTEGER columns: its number, and
the bytes it loses or adds to those pending. -/
def SpoolTables.Countable (tables : SpoolTables) (limits : SpoolLimits)
    (envelope : BatchEnvelope) : Prop :=
  tables.counter < 2 ^ 63 ∧
    if limits.maxPayloadBytes.toNat < (toVec envelope).utf8ByteSize then
      (toVec envelope).utf8ByteSize < 2 ^ 63
    else tables.totalBytes + (toVec envelope).utf8ByteSize < 2 ^ 63

instance (tables : SpoolTables) (limits : SpoolLimits) (envelope : BatchEnvelope) :
    Decidable (tables.Countable limits envelope) :=
  inferInstanceAs (Decidable (_ ∧ _))

theorem LimitArgs.maxPayloadBytes_eq_iff (args : LimitArgs) :
    args.limits.maxPayloadBytes.toNat = args.maxSpoolMib.toNat * 2 ^ 20 ↔
      args.maxSpoolMib.toNat * 2 ^ 20 < 2 ^ 64 :=
  mul_mul_exact_iff args.maxSpoolMib 1024 1024

theorem LimitArgs.maxAgeSeconds_eq_iff (args : LimitArgs) :
    args.limits.maxAgeSeconds.toNat = args.maxSpoolHours.toNat * 3600 ↔
      args.maxSpoolHours.toNat * 3600 < 2 ^ 64 :=
  mul_mul_exact_iff args.maxSpoolHours 60 60

theorem Spool.open_ok {faults : SpoolFaults} {limits : SpoolLimits} {tables : SpoolTables}
    {spool : Spool} (opened : (Spool.open faults limits tables).1 = .ok spool) :
    spool.limits = limits ∧
      spool.maxPageCount = (((limits.maxPayloadBytes + SQLITE_OVERHEAD_BYTES).toNat +
        SQLITE_PAGE_SIZE - 1) / SQLITE_PAGE_SIZE : Nat) ∧
      (Spool.open faults limits tables).2.nextSeq = some (tables.nextSeq.getD 0) := by
  unfold Spool.open at opened ⊢
  split at opened
  · cases opened
  · rename_i positive
    rw [if_neg positive]
    split at opened
    · cases opened
    · split at opened
      · cases opened
      · rename_i maxPageCount configured
        split at opened
        · cases opened
        · dsimp only at opened
          split at opened
          · cases opened
          · rename_i created
            cases opened
            obtain ⟨_, _, stored⟩ := bind_ok configured
            rw [anyhow_eq_ok] at stored
            simp only [created]
            exact ⟨trivial, (integer_ok stored).1, trivial⟩

/-- The pages counted from the byte limit and the overhead hold both, unless SQLite supports
fewer. -/
theorem pages_cover_iff {maxPayloadBytes : UInt64} {maxPageCount : Int}
    (small : maxPayloadBytes.toNat < 2 ^ 63)
    (pages : maxPageCount = (((maxPayloadBytes + SQLITE_OVERHEAD_BYTES).toNat +
      SQLITE_PAGE_SIZE - 1) / SQLITE_PAGE_SIZE : Nat)) (largest : Nat) :
    (maxPayloadBytes.toNat + SQLITE_OVERHEAD_BYTES.toNat : Int) ≤
        min maxPageCount largest * SQLITE_PAGE_SIZE ↔
      maxPayloadBytes.toNat + SQLITE_OVERHEAD_BYTES.toNat ≤ largest * SQLITE_PAGE_SIZE := by
  have overhead : SQLITE_OVERHEAD_BYTES.toNat = 2 ^ 24 := rfl
  have bytes : (maxPayloadBytes + SQLITE_OVERHEAD_BYTES).toNat =
      maxPayloadBytes.toNat + SQLITE_OVERHEAD_BYTES.toNat := by
    rw [UInt64.toNat_add, Nat.mod_eq_of_lt (by omega)]
  rw [bytes, SQLITE_PAGE_SIZE] at pages
  rw [SQLITE_PAGE_SIZE]
  omega

section Reached

variable {external : External} {history : SpoolHistory} {limits : SpoolLimits}

theorem SpoolHistory.Accounted.step_nextSeq (accounted : history.Accounted external)
    (created : history.tables.nextSeq ≠ none) (call : SpoolCall) :
    (history.step external call).tables.nextSeq ≠ none := by
  cases call with
  | «open» faults limits =>
      obtain ⟨tables, current, opened, same | named, _⟩ := history.step_open faults limits
      · rw [opened, same]
        exact created
      · rw [opened, named]
        exact Option.some_ne_none _
  | enqueue faults args =>
      rcases history.step_enqueue faults args with same | ⟨limits, value, next, _, result, after⟩
      · rw [same]
        exact created
      · rw [after]
        obtain ⟨_, _, stored⟩ := accounted.enqueue_ok result
        rw [stored.nextSeq]
        exact Option.some_ne_none _
  | acknowledge faults batchId checksum =>
      rcases accounted.step_acknowledge faults batchId checksum with same | settled
      · rw [same]
        exact created
      · rw [settled]
        exact created

theorem run_nextSeq {before after : List SpoolCall} {faults : SpoolFaults} {spool : Spool}
    (opened : (Spool.open faults limits (SpoolHistory.run external before).tables).1 = .ok spool) :
    (SpoolHistory.run external (before ++ .open faults limits :: after)).tables.nextSeq ≠ none := by
  induction after using List.reverseRecOn with
  | nil =>
      obtain ⟨_, _, named⟩ := Spool.open_ok opened
      rw [SpoolHistory.run] at opened named
      rw [SpoolHistory.run, run_snoc, SpoolHistory.step]
      split
      · rename_i result
        rw [result] at named
        rw [named]
        exact Option.some_ne_none _
      · rename_i result
        rw [result] at opened
        cases opened
  | append_singleton after call ih =>
      rw [← List.cons_append, ← List.append_assoc, SpoolHistory.run, run_snoc]
      exact (SpoolHistory.run_accounted external _).step_nextSeq ih call

variable {tables : SpoolTables} {envelope : BatchEnvelope}

theorem integer_optional_of_lt {value : Option UInt64} (field : String)
    (small : ∀ number ∈ value, number.toNat < 2 ^ 63) :
    ∃ column, (value.mapM fun number => integer number.toNat field) = .ok column := by
  cases value with
  | none => exact ⟨none, rfl⟩
  | some number =>
      have stored := integer_of_lt field (small number rfl)
      exact ⟨some number.toNat, by simp [stored, Option.mapM_some]⟩

structure BatchEnvelope.Dated (envelope : BatchEnvelope) : Prop where
  createdAt : envelope.body.createdAt.toNat < 2 ^ 63
  starts : ∀ bucket ∈ envelope.body.buckets, bucket.bucketStart.toNat < 2 ^ 63

theorem BatchEnvelope.Dated.range (dated : envelope.Dated) :
    (∀ start ∈ (bucketRange envelope.body.buckets).1, start.toNat < 2 ^ 63) ∧
      ∀ start ∈ (bucketRange envelope.body.buckets).2, start.toNat < 2 ^ 63 := by
  have starts : ∀ start ∈ envelope.body.buckets.map (·.bucketStart), start.toNat < 2 ^ 63 := by
    intro start member
    obtain ⟨bucket, belongs, rfl⟩ := List.mem_map.mp member
    exact dated.starts bucket belongs
  exact ⟨fun start least => starts start (List.min?_mem least),
    fun start most => starts start (List.max?_mem most)⟩

theorem batchParams_ok_iff (dated : envelope.Dated) (numbered : envelope.body.seq.toNat < 2 ^ 63) :
    batchParams envelope = .ok (batchRow envelope) ↔ (toVec envelope).utf8ByteSize < 2 ^ 63 := by
  obtain ⟨least, leastStored⟩ := integer_optional_of_lt "min_bucket" dated.range.1
  obtain ⟨most, mostStored⟩ := integer_optional_of_lt "max_bucket" dated.range.2
  constructor
  · intro params
    have unsigned := batchParams_unsigned params
    have bytes := unsigned.payloadBytes.2
    simp only [batchRow] at bytes
    omega
  · intro small
    have params : ∃ row, batchParams envelope = .ok row := by
      simp only [batchParams, integer_of_lt "seq" numbered, ok_bind,
        integer_of_lt "created_at" dated.createdAt, leastStored, mostStored,
        integer_of_lt "payload_bytes" small]
      exact ⟨_, rfl⟩
    obtain ⟨row, params⟩ := params
    rw [params, batchParams_ok params]

theorem insertGap_ok_iff (tables : SpoolTables) (dated : envelope.Dated)
    (numbered : envelope.body.seq.toNat < 2 ^ 63)
    (fresh : ∀ gap ∈ tables.gaps, gap.seq ≠ envelope.body.seq.toNat) (reason : String)
    (lostBytes : Nat) :
    (∃ next, insertGap noFaults tables envelope.body.seq (bucketRange envelope.body.buckets).1
      (bucketRange envelope.body.buckets).2 lostBytes reason envelope.body.createdAt = .ok next) ↔
      lostBytes < 2 ^ 63 := by
  obtain ⟨least, leastStored⟩ := integer_optional_of_lt "gap min_bucket" dated.range.1
  obtain ⟨most, mostStored⟩ := integer_optional_of_lt "gap max_bucket" dated.range.2
  have free := gap_free fresh
  simp only [insertGap, integer_of_lt "gap seq" numbered, toSqlError_ok, ok_bind, leastStored,
    mostStored, integer_of_lt "gap created_at" dated.createdAt, runs_noFaults, free,
    Bool.false_eq_true, ↓reduceIte]
  constructor
  · rintro ⟨next, inserted⟩
    obtain ⟨column, stored, _⟩ := bind_ok inserted
    rw [toSqlError_eq_ok] at stored
    exact (integer_ok stored).2
  · intro small
    rw [integer_of_lt "gap lost_bytes" small]
    exact ⟨_, rfl⟩

theorem insertBatch_fresh (tables : SpoolTables)
    (fresh : ∀ stored ∈ tables.batches, stored.seq ≠ (batchRow envelope).seq ∧
      stored.batchId ≠ (batchRow envelope).batchId) :
    insertBatch noFaults (batchRow envelope) tables = .ok (tables.offered envelope) := by
  rw [insertBatch, runs_noFaults, ok_bind, batch_free fresh]
  rfl

theorem enforceLimits_ok_iff (limits : SpoolLimits) (pending : tables.Pending) {now : UInt64}
    (clock : now.toNat < 2 ^ 63) :
    (∃ result, enforceLimits noFaults limits now tables = .ok result) ↔
      limits.maxPayloadBytes.toNat < 2 ^ 63 ∧ tables.totalBytes < 2 ^ 63 := by
  constructor
  · rintro ⟨result, enforced⟩
    obtain ⟨_, _, rest⟩ := bind_ok enforced
    obtain ⟨_, stored, _⟩ := bind_ok rest
    rw [anyhow_eq_ok] at stored
    have byteLimit := (integer_ok stored).2
    refine ⟨byteLimit, ?_⟩
    by_contra exceeds
    have failed := (enforceLimits_exact tables pending limits now byteLimit clock).2.1 (by omega)
    cases enforced.symm.trans failed
  · rintro ⟨byteLimit, total⟩
    exact ⟨_, (enforceLimits_exact tables pending limits now byteLimit clock).1 total⟩

theorem offered_totalBytes :
    (tables.offered envelope).totalBytes = tables.totalBytes + (toVec envelope).utf8ByteSize := by
  simp [SpoolTables.totalBytes, SpoolTables.offered, batchRow]

theorem SpoolHistory.Checked.storeEnvelope_ok_iff (checked : history.Checked external)
    (limits : SpoolLimits) (isSealed : envelope.Sealed external)
    (fresh : envelope.body.seq.toNat = history.enqueued.length)
    (numbered : envelope.body.seq.toNat < 2 ^ 63) (dated : envelope.Dated) :
    (∃ result, storeEnvelope noFaults limits envelope { history.tables with
        nextSeq := some (envelope.body.seq.toNat + 1 : Int) } = .ok result) ↔
      limits.maxPayloadBytes.toNat < 2 ^ 63 ∧
        if limits.maxPayloadBytes.toNat < (toVec envelope).utf8ByteSize then
          (toVec envelope).utf8ByteSize < 2 ^ 63
        else history.tables.totalBytes + (toVec envelope).utf8ByteSize < 2 ^ 63 := by
  have accounts := checked.accounted.accounts
  have gap := insertGap_ok_iff { history.tables with
      nextSeq := some (envelope.body.seq.toNat + 1 : Int) } dated numbered
    (accounts.gap_ne_fresh fresh) "batch_exceeds_spool_limit" (toVec envelope).utf8ByteSize
  by_cases large : limits.maxPayloadBytes.toNat < (toVec envelope).utf8ByteSize
  · simp only [storeEnvelope, if_pos large]
    constructor
    · rintro ⟨result, stored⟩
      obtain ⟨next, inserted, _⟩ := bind_ok stored
      rw [sqlite_eq_ok] at inserted
      have small := gap.mp ⟨next, inserted⟩
      omega
    · rintro ⟨_, small⟩
      obtain ⟨next, inserted⟩ := gap.mpr small
      rw [inserted]
      exact ⟨_, rfl⟩
  · simp only [storeEnvelope, if_neg large]
    have inserted := insertBatch_fresh { history.tables with
        nextSeq := some (envelope.body.seq.toNat + 1 : Int) }
      (accounts.batch_ne_fresh fresh isSealed)
    have enforced (params : batchParams envelope = .ok (batchRow envelope)) :=
      enforceLimits_ok_iff limits (checked.offered isSealed fresh params) dated.createdAt
    rw [offered_totalBytes] at enforced
    constructor
    · rintro ⟨result, stored⟩
      obtain ⟨row, params, stored⟩ := bind_ok stored
      rw [anyhow_eq_ok] at params
      have rowEq := batchParams_ok params
      subst rowEq
      rw [inserted, sqlite_ok, ok_bind] at stored
      obtain ⟨outcome, success, _⟩ := bind_ok stored
      exact (enforced params).mp ⟨outcome, success⟩
    · rintro ⟨byteLimit, total⟩
      have params := (batchParams_ok_iff dated numbered).mpr (by omega)
      obtain ⟨outcome, success⟩ := (enforced params).mpr ⟨byteLimit, total⟩
      rw [params, anyhow_ok, ok_bind, inserted, sqlite_ok, ok_bind, success]
      exact ⟨_, rfl⟩

/-- In a reachable state `enqueue` fails only over numbers that do not fit INTEGER columns. -/
theorem SpoolHistory.Checked.enqueue_ok_iff (checked : history.Checked external)
    (created : history.tables.nextSeq ≠ none) (limits : SpoolLimits) (args : EnqueueArgs)
    (dated : (history.tables.nextEnvelope external args).Dated) :
    (∃ value next, Spool.enqueue external noFaults limits args history.tables =
        (.ok value, next)) ↔
      limits.maxPayloadBytes.toNat < 2 ^ 63 ∧
        history.tables.Countable limits (history.tables.nextEnvelope external args) := by
  have total := checked.accounted.accounts.counter
  obtain ⟨number, counter⟩ := Option.ne_none_iff_exists'.mp created
  have counted : history.tables.counter = number := by simp [SpoolTables.counter, counter]
  rw [counted] at total
  subst total
  rw [SpoolTables.Countable, counted]
  by_cases numbered : history.enqueued.length < 2 ^ 63
  · have wide : history.enqueued.length < 2 ^ 64 := by omega
    have fresh : (history.tables.nextEnvelope external args).body.seq.toNat =
        history.enqueued.length := by
      have seq : (history.tables.nextEnvelope external args).body.seq =
        UInt64.ofNat history.tables.counter.toNat := rfl
      rw [seq, counted, Int.toNat_natCast, UInt64.toNat_ofNat_of_lt' wide]
    have selected := selectNextSeq_of_counter numbered counter
    have body : enqueueBody external noFaults limits args history.tables =
        storeEnvelope noFaults limits (history.tables.nextEnvelope external args)
          { history.tables with
            nextSeq := some ((history.tables.nextEnvelope external args).body.seq.toNat + 1) } := by
      rw [fresh, SpoolTables.nextEnvelope, counted, Int.toNat_natCast]
      simp only [enqueueBody, runs_noFaults, sqlite_ok, ok_bind, selected, updateNextSeq,
        pure_eq_ok, counter, Option.map_some]
    have isSealed : (history.tables.nextEnvelope external args).Sealed external :=
      BatchEnvelope.new_sealed ..
    have store := checked.storeEnvelope_ok_iff limits isSealed fresh (by omega) dated
    rw [← body] at store
    constructor
    · rintro ⟨value, next, result⟩
      obtain ⟨byteLimit, fits⟩ := store.mp ⟨_, transact_ok result⟩
      exact ⟨byteLimit, by omega, fits⟩
    · rintro ⟨byteLimit, _, fits⟩
      obtain ⟨⟨value, next⟩, result⟩ := store.mpr ⟨byteLimit, fits⟩
      exact ⟨value, next, transact_of_ok result⟩
  · constructor
    · rintro ⟨value, next, result⟩
      obtain ⟨seq, same, bound, _⟩ := Spool.enqueue_ok result
      rw [counter, Option.some.injEq] at same
      omega
    · rintro ⟨_, small, _⟩
      omega

end Reached

/-- For every value of the two arguments and in every state reached after `open` took them, the
limits in force are those asked for, the page cap covers them and `enqueue` succeeds, if and only
if their products fit, and the values of the call do. `largest` is the page count that SQLite
supports at most. -/
theorem limits_mean_what_was_asked_iff (external : External) (asked : LimitArgs)
    (before after : List SpoolCall) (faults : SpoolFaults) (spool : Spool) (largest : Nat)
    (args : EnqueueArgs)
    (opened : (Spool.open faults asked.limits (SpoolHistory.run external before).tables).1 =
      .ok spool)
    (created : args.createdAt.toNat < 2 ^ 63)
    (starts : ∀ bucket ∈ args.buckets, bucket.bucketStart.toNat < 2 ^ 63) :
    let tables := (SpoolHistory.run external (before ++ .open faults asked.limits :: after)).tables
    (spool.limits.maxPayloadBytes.toNat = asked.maxSpoolMib.toNat * 2 ^ 20 ∧
      spool.limits.maxAgeSeconds.toNat = asked.maxSpoolHours.toNat * 3600 ∧
      (spool.limits.maxPayloadBytes.toNat + SQLITE_OVERHEAD_BYTES.toNat : Int) ≤
        min spool.maxPageCount largest * SQLITE_PAGE_SIZE ∧
      ∃ value next, Spool.enqueue external noFaults spool.limits args tables =
        (.ok value, next)) ↔
    asked.maxSpoolMib.toNat * 2 ^ 20 < 2 ^ 63 ∧
      asked.maxSpoolHours.toNat * 3600 < 2 ^ 64 ∧
      asked.maxSpoolMib.toNat * 2 ^ 20 + SQLITE_OVERHEAD_BYTES.toNat ≤ largest * SQLITE_PAGE_SIZE ∧
      tables.Countable spool.limits (tables.nextEnvelope external args) := by
  intro tables
  obtain ⟨limits, cap, _⟩ := Spool.open_ok opened
  have checked : (SpoolHistory.run external (before ++ .open faults asked.limits :: after)).Checked
    external := SpoolHistory.run_checked external _
  have succeeds := checked.enqueue_ok_iff (run_nextSeq opened) spool.limits args ⟨created, starts⟩
  have bytes := asked.maxPayloadBytes_eq_iff
  have age := asked.maxAgeSeconds_eq_iff
  rw [← limits] at bytes age cap
  rw [succeeds, age]
  constructor
  · rintro ⟨exactly, hours, pages, byteLimit, countable⟩
    rw [pages_cover_iff byteLimit cap, exactly] at pages
    rw [exactly] at byteLimit
    exact ⟨byteLimit, hours, pages, countable⟩
  · rintro ⟨mib, hours, pages, countable⟩
    have exactly := bytes.mpr (Nat.lt_trans mib (by norm_num))
    rw [← exactly] at mib pages
    exact ⟨exactly, hours, (pages_cover_iff mib cap largest).mpr pages, mib, countable⟩

/-- `--max-spool-mib` at 2 ^ 44 + 1 leaves a budget of 1 MiB. At 2 ^ 43 `open` succeeds, and every
`enqueue` fails. -/
theorem asked_limits_lost :
    (Spool.open noFaults ({ maxSpoolMib := 17592186044417 } : LimitArgs).limits {}).1 =
      .ok { limits := { maxPayloadBytes := 1048576, maxAgeSeconds := 86400 }, maxPageCount := 4352 } ∧
    (Spool.open noFaults ({ maxSpoolMib := 8796093022208 } : LimitArgs).limits {}).1 =
      .ok { limits := { maxPayloadBytes := 9223372036854775808, maxAgeSeconds := 86400 }
            maxPageCount := 2251799813689344 } ∧
    (Spool.enqueue budgetExternal noFaults
        ({ maxSpoolMib := 8796093022208 } : LimitArgs).limits smallBatch
        (SpoolHistory.run budgetExternal
          [.open noFaults ({ maxSpoolMib := 8796093022208 } : LimitArgs).limits]).tables).1 =
      .error (.message "max_payload_bytes exceeds SQLite INTEGER range") := by
  decide +kernel

theorem limits_mean_what_was_asked_iff_default :
    ∃ value next, Spool.enqueue budgetExternal noFaults
      { maxPayloadBytes := 134217728, maxAgeSeconds := 86400 } smallBatch
      (SpoolHistory.run budgetExternal [.open noFaults ({} : LimitArgs).limits]).tables =
        (.ok value, next) := by
  have opened : (Spool.open noFaults ({} : LimitArgs).limits
      (SpoolHistory.run budgetExternal []).tables).1 = .ok {
        limits := { maxPayloadBytes := 134217728, maxAgeSeconds := 86400 }
        maxPageCount := 36864 } := by decide +kernel
  have exactly := limits_mean_what_was_asked_iff budgetExternal {} [] [] noFaults _ 4294967294
    smallBatch opened (by decide) (by decide)
  refine (exactly.mpr ⟨by decide, by decide, by decide, ?_⟩).2.2.2
  decide +kernel

end FlowObservability
