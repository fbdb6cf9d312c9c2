import FlowObservability.Library.Budget
import FlowObservability.SpoolSteps

/-!
The exact effect of `enforce_limits`: which batches survive, and what becomes of the others.
-/

namespace FlowObservability

open Budget Table Transaction

structure BatchRow.Unsigned (row : BatchRow) : Prop where
  seq : 0 ≤ row.seq ∧ row.seq < 2 ^ 63
  createdAt : 0 ≤ row.createdAt ∧ row.createdAt < 2 ^ 63
  payloadBytes : 0 ≤ row.payloadBytes ∧ row.payloadBytes < 2 ^ 63
  minBucket : ∀ value ∈ row.minBucket, 0 ≤ value ∧ value < 2 ^ 63
  maxBucket : ∀ value ∈ row.maxBucket, 0 ≤ value ∧ value < 2 ^ 63

structure SpoolTables.Pending (tables : SpoolTables) : Prop where
  columns : ∀ row ∈ tables.batches, row.Unsigned
  distinct : (tables.batches.map (·.seq)).Nodup
  fresh : ∀ row ∈ tables.batches, ∀ gap ∈ tables.gaps, gap.seq ≠ row.seq

def SpoolTables.inOrder (tables : SpoolTables) : List BatchRow := orderBy (·.seq) tables.batches

/-- The batch is in the longest run of newest batches within the byte limit, and is not too
old. -/
def SpoolTables.Survives (tables : SpoolTables) (cutoff : Nat) (maxPayloadBytes : Int)
    (row : BatchRow) : Prop :=
  row ∈ withinBudget (·.payloadBytes) maxPayloadBytes tables.inOrder ∧ (cutoff : Int) ≤ row.createdAt

instance survivesDecidable (tables : SpoolTables) (cutoff : Nat) (maxPayloadBytes : Int)
    (row : BatchRow) : Decidable (tables.Survives cutoff maxPayloadBytes row) :=
  inferInstanceAs (Decidable (_ ∧ _))

def SpoolTables.evicted (tables : SpoolTables) (cutoff : Nat) (maxPayloadBytes : Int) :
    List BatchRow :=
  tables.inOrder.filter fun row => !decide (tables.Survives cutoff maxPayloadBytes row)

def SpoolTables.enforced (tables : SpoolTables) (cutoff : Nat) (maxPayloadBytes : Int)
    (now : UInt64) : SpoolTables :=
  { tables with
    batches := tables.batches.filter fun row => decide (tables.Survives cutoff maxPayloadBytes row)
    gaps := tables.gaps ++ (tables.evicted cutoff maxPayloadBytes).map fun row =>
      row.gap (if row.createdAt < cutoff then "spool_age_limit" else "spool_byte_limit") now }

section Steps

variable {tables : SpoolTables} {cutoff : Nat} {maxPayloadBytes : Int} {row : BatchRow}
  {now : UInt64} {reason : String}

theorem SpoolTables.Pending.inOrder_lt (pending : tables.Pending) :
    tables.inOrder.Pairwise fun first second => first.seq < second.seq :=
  orderBy_lt pending.distinct

theorem SpoolTables.mem_inOrder : row ∈ tables.inOrder ↔ row ∈ tables.batches := mem_orderBy

theorem SpoolTables.inOrder_sum (tables : SpoolTables) :
    (tables.inOrder.map (·.payloadBytes)).sum = tables.totalBytes :=
  ((orderBy_perm _ _).map _).sum_eq

theorem SpoolTables.Pending.due_eq (pending : tables.Pending) :
    tables.due cutoff maxPayloadBytes = (tables.inOrder.filter fun row =>
      decide (row.createdAt < (cutoff : Int)) ||
        decide (maxPayloadBytes < tables.totalBytes)).head? := by
  rw [SpoolTables.due, candidateRow, orderBy_filter pending.distinct]
  rfl

theorem SpoolTables.Pending.evict (pending : tables.Pending) (row : BatchRow) :
    (tables.evict row reason now).Pending := by
  constructor
  · intro other kept
    exact pending.columns other (List.mem_of_mem_filter kept)
  · exact pending.distinct.sublist (List.filter_sublist.map _)
  · intro other kept gap added
    have different : other.seq ≠ row.seq := by
      simpa using (List.mem_filter.mp kept).2
    rcases List.mem_append.mp added with old | new
    · exact pending.fresh other (List.mem_of_mem_filter kept) gap old
    · rw [List.mem_singleton.mp new]
      exact different.symm

theorem SpoolTables.Pending.evict_inOrder (pending : tables.Pending) (reason : String) (now : UInt64)
    {before after : List BatchRow} (split : tables.inOrder = before ++ row :: after) :
    (tables.evict row reason now).inOrder = before ++ after := by
  have ordered := pending.inOrder_lt
  rw [split, List.pairwise_append, List.pairwise_cons] at ordered
  obtain ⟨_, ⟨later, _⟩, earlier⟩ := ordered
  have keptBefore : before.filter (fun other => other.seq != row.seq) = before := by
    rw [List.filter_eq_self]
    intro other member
    have less := earlier other member row List.mem_cons_self
    simp only [bne_iff_ne]
    omega
  have keptAfter : after.filter (fun other => other.seq != row.seq) = after := by
    rw [List.filter_eq_self]
    intro other member
    have less := later other member
    simp only [bne_iff_ne]
    omega
  have same : (tables.evict row reason now).inOrder =
      tables.inOrder.filter (fun other => other.seq != row.seq) :=
    orderBy_filter pending.distinct _
  rw [same, split, List.filter_append, List.filter_cons, keptBefore, keptAfter]
  simp

theorem SpoolTables.Pending.payloadBytes_nonneg (pending : tables.Pending) :
    ∀ row ∈ tables.batches, 0 ≤ row.payloadBytes :=
  fun row stored => (pending.columns row stored).payloadBytes.1

theorem SpoolTables.Pending.byteRound (pending : tables.Pending) (reason : String) (now : UInt64)
    {after : List BatchRow} (split : tables.inOrder = row :: after)
    (exceeds : maxPayloadBytes < tables.totalBytes) :
    ¬tables.Survives cutoff maxPayloadBytes row ∧
      ∀ other, tables.Survives cutoff maxPayloadBytes other ↔
        (tables.evict row reason now).Survives cutoff maxPayloadBytes other := by
  have first : tables.inOrder = [] ++ row :: after := split
  have shrunk := pending.evict_inOrder reason now first
  have total := tables.inOrder_sum
  have ordered := pending.inOrder_lt
  rw [split] at total
  rw [split, List.pairwise_cons] at ordered
  have kept : withinBudget (·.payloadBytes) maxPayloadBytes tables.inOrder =
      withinBudget (·.payloadBytes) maxPayloadBytes after := by
    rw [split]
    exact withinBudget_of_gt (by omega)
  constructor
  · rintro ⟨member, _⟩
    rw [kept] at member
    have less := ordered.1 row ((withinBudget_suffix after).subset member)
    omega
  · intro other
    rw [SpoolTables.Survives, SpoolTables.Survives, kept, shrunk, List.nil_append]

theorem SpoolTables.Pending.ageRound (pending : tables.Pending) (reason : String) (now : UInt64)
    {before after : List BatchRow} (split : tables.inOrder = before ++ row :: after)
    (fits : tables.totalBytes ≤ maxPayloadBytes) :
    (∀ other ∈ before, (cutoff : Int) ≤ other.createdAt →
      tables.Survives cutoff maxPayloadBytes other) ∧
      ∀ other ∈ before ++ after, tables.Survives cutoff maxPayloadBytes other ↔
        (tables.evict row reason now).Survives cutoff maxPayloadBytes other := by
  have shrunk := pending.evict_inOrder reason now split
  have total := tables.inOrder_sum
  have stored : row ∈ tables.batches := SpoolTables.mem_inOrder.mp (by simp [split])
  have rowBytes := pending.payloadBytes_nonneg row stored
  have all : withinBudget (·.payloadBytes) maxPayloadBytes tables.inOrder = tables.inOrder :=
    withinBudget_of_le (by omega)
  have rest : withinBudget (·.payloadBytes) maxPayloadBytes (before ++ after) =
      before ++ after := by
    apply withinBudget_of_le
    rw [split] at total
    simp only [List.map_append, List.map_cons, List.sum_append, List.sum_cons] at total ⊢
    omega
  constructor
  · intro other member young
    refine ⟨?_, young⟩
    rw [all, split]
    exact List.mem_append_left _ member
  · intro other member
    rw [SpoolTables.Survives, SpoolTables.Survives, all, shrunk, rest, split]
    have inAll : other ∈ before ++ row :: after := by
      rcases List.mem_append.mp member with earlier | later
      · exact List.mem_append_left _ earlier
      · exact List.mem_append_right _ (List.mem_cons_of_mem _ later)
    simp only [inAll, member, true_and]

theorem SpoolTables.Pending.due_split (pending : tables.Pending) (reason : String) (now : UInt64)
    (due : tables.due cutoff maxPayloadBytes = some row) :
    ∃ before after, tables.inOrder = before ++ row :: after ∧
      (∀ other ∈ before, tables.Survives cutoff maxPayloadBytes other) ∧
      ¬tables.Survives cutoff maxPayloadBytes row ∧
      ∀ other ∈ before ++ after, tables.Survives cutoff maxPayloadBytes other ↔
        (tables.evict row reason now).Survives cutoff maxPayloadBytes other := by
  rw [pending.due_eq, List.head?_filter, List.find?_eq_some_iff_append] at due
  obtain ⟨chosen, before, after, split, passed⟩ := due
  refine ⟨before, after, split, ?_⟩
  by_cases exceeds : maxPayloadBytes < tables.totalBytes
  · have none : before = [] := by
      rw [List.eq_nil_iff_forall_not_mem]
      intro other member
      simpa [exceeds] using passed other member
    subst none
    obtain ⟨gone, same⟩ := pending.byteRound reason now split exceeds
    exact ⟨by simp, gone, fun other _ => same other⟩
  · have fits : tables.totalBytes ≤ maxPayloadBytes := by omega
    obtain ⟨keep, same⟩ := pending.ageRound reason now split fits
    have aged : row.createdAt < (cutoff : Int) := by simpa [exceeds] using chosen
    refine ⟨?_, ?_, same⟩
    · intro other member
      exact keep other member (by simpa [exceeds] using passed other member)
    · rintro ⟨_, young⟩
      omega

theorem SpoolTables.Pending.evicted_cons (pending : tables.Pending) (reason : String) (now : UInt64)
    (due : tables.due cutoff maxPayloadBytes = some row) :
    tables.evicted cutoff maxPayloadBytes =
      row :: (tables.evict row reason now).evicted cutoff maxPayloadBytes := by
  obtain ⟨before, after, split, keep, gone, same⟩ := pending.due_split reason now due
  have shrunk := pending.evict_inOrder reason now split
  have keptBefore : before.filter (fun other =>
      !decide (tables.Survives cutoff maxPayloadBytes other)) = [] := by
    rw [List.filter_eq_nil_iff]
    intro other member
    simp [keep other member]
  have sameRest : (before ++ after).filter (fun other =>
      !decide ((tables.evict row reason now).Survives cutoff maxPayloadBytes other)) =
      (before ++ after).filter fun other =>
        !decide (tables.Survives cutoff maxPayloadBytes other) := by
    apply List.filter_congr
    intro other member
    simp only [same other member]
  rw [SpoolTables.evicted, SpoolTables.evicted, split, shrunk, sameRest, List.filter_append,
    List.filter_append, List.filter_cons, keptBefore]
  simp [gone]

theorem SpoolTables.Pending.kept_eq (pending : tables.Pending) (reason : String) (now : UInt64)
    (due : tables.due cutoff maxPayloadBytes = some row) :
    (tables.evict row reason now).batches.filter (fun other =>
        decide ((tables.evict row reason now).Survives cutoff maxPayloadBytes other)) =
      tables.batches.filter fun other =>
        decide (tables.Survives cutoff maxPayloadBytes other) := by
  obtain ⟨before, after, split, _, gone, same⟩ := pending.due_split reason now due
  have rowMem : row ∈ tables.batches := SpoolTables.mem_inOrder.mp (by simp [split])
  rw [SpoolTables.evict, List.filter_filter]
  apply List.filter_congr
  intro other member
  by_cases evicted : other = row
  · subst evicted
    simp [gone]
  · have different : other.seq ≠ row.seq := fun equal =>
      evicted (List.inj_on_of_nodup_map pending.distinct member rowMem equal)
    have listed : other ∈ before ++ after := by
      have inAll := SpoolTables.mem_inOrder.mpr member
      rw [split] at inAll
      simpa [evicted] using inAll
    have iff := same other listed
    simp only [SpoolTables.evict] at iff
    simp [← iff, different]

theorem SpoolTables.Pending.enforced_evict (pending : tables.Pending)
    (due : tables.due cutoff maxPayloadBytes = some row) :
    (tables.evict row (row.reason cutoff) now).enforced cutoff maxPayloadBytes now =
      tables.enforced cutoff maxPayloadBytes now := by
  have created := (pending.columns row (due_mem due)).createdAt.1
  have reasoned : row.reason cutoff =
      if row.createdAt < cutoff then "spool_age_limit" else "spool_byte_limit" := by
    unfold BatchRow.reason evictionReason
    by_cases aged : row.createdAt < cutoff
    · rw [if_pos aged, if_pos (by omega)]
    · rw [if_neg aged, if_neg (by omega)]
  have kept := pending.kept_eq (row.reason cutoff) now due
  have listed := pending.evicted_cons (row.reason cutoff) now due
  rw [SpoolTables.enforced, SpoolTables.enforced, kept, listed, List.map_cons, ← reasoned]
  simp [SpoolTables.evict]

theorem SpoolTables.settled_survives (settled : tables.due cutoff maxPayloadBytes = none)
    (member : row ∈ tables.batches) : tables.Survives cutoff maxPayloadBytes row := by
  obtain ⟨young, fits⟩ := due_none settled row member
  refine ⟨?_, young⟩
  rw [withinBudget_of_le (by rw [SpoolTables.inOrder_sum]; exact fits)]
  exact SpoolTables.mem_inOrder.mpr member

theorem SpoolTables.enforced_settled (now : UInt64)
    (settled : tables.due cutoff maxPayloadBytes = none) :
    tables.enforced cutoff maxPayloadBytes now = tables ∧
      tables.evicted cutoff maxPayloadBytes = [] := by
  have nothing : tables.evicted cutoff maxPayloadBytes = [] := by
    rw [SpoolTables.evicted, List.filter_eq_nil_iff]
    intro row member
    simp [SpoolTables.settled_survives settled (SpoolTables.mem_inOrder.mp member)]
  have all : tables.batches.filter (fun row =>
      decide (tables.Survives cutoff maxPayloadBytes row)) = tables.batches := by
    rw [List.filter_eq_self]
    intro row member
    simp [SpoolTables.settled_survives settled member]
  refine ⟨?_, nothing⟩
  rw [SpoolTables.enforced, nothing, all]
  simp

theorem Evictions.enforced {count : Nat} {next : SpoolTables} (pending : tables.Pending)
    (evictions : Evictions cutoff maxPayloadBytes now count tables next)
    (settled : next.due cutoff maxPayloadBytes = none) :
    next = tables.enforced cutoff maxPayloadBytes now ∧
      count = (tables.evicted cutoff maxPayloadBytes).length := by
  induction evictions with
  | done tables =>
      obtain ⟨same, nothing⟩ := SpoolTables.enforced_settled now settled
      exact ⟨same.symm, by rw [nothing]; rfl⟩
  | @round count tables next row due rest ih =>
      obtain ⟨same, counted⟩ := ih (pending.evict row) settled
      rw [pending.enforced_evict due] at same
      rw [pending.evicted_cons (row.reason cutoff) now due, List.length_cons]
      exact ⟨same, by rw [counted]⟩

end Steps

section Success

variable {tables : SpoolTables} {now : UInt64}

theorem integer_unsigned {value : Int} (bound : 0 ≤ value ∧ value < 2 ^ 63) (index : Nat)
    (field : String) :
    ∃ read : UInt64, unsigned index value = .ok read ∧ (read.toNat : Int) = value ∧
      integer read.toNat field = .ok value := by
  obtain ⟨number, rfl⟩ := Int.eq_ofNat_of_zero_le bound.1
  have small : number < 2 ^ 63 := by omega
  have wide : number < 2 ^ 64 := by omega
  have read : (UInt64.ofNat number).toNat = number := UInt64.toNat_ofNat_of_lt' wide
  exact ⟨UInt64.ofNat number, unsigned_of_nat small, by rw [read],
    by rw [read, integer_of_lt field small]⟩

theorem integer_optional {column : Option Int}
    (bound : ∀ value ∈ column, 0 ≤ value ∧ value < 2 ^ 63) (index : Nat) (field : String) :
    ∃ read : Option UInt64, optionalUnsigned index column = .ok read ∧
      (read.mapM fun value => integer value.toNat field) = .ok column := by
  cases column with
  | none => exact ⟨none, rfl, rfl⟩
  | some value =>
      obtain ⟨read, found, _, stored⟩ := integer_unsigned (bound value rfl) index field
      refine ⟨some read, ?_, ?_⟩
      · rw [optionalUnsigned, found]
        rfl
      · have mapped : (some read).mapM (fun value => integer value.toNat field) =
            (do let value ← integer read.toNat field; return some value) := rfl
        rw [mapped, stored]
        rfl

theorem SpoolTables.Pending.selectTotalBytes_eq (pending : tables.Pending) :
    selectTotalBytes noFaults tables =
      if tables.totalBytes < 2 ^ 63 then .ok (UInt64.ofNat tables.totalBytes.toNat)
      else .error (.sqliteFailure .unknown) := by
  have nonneg : ∀ value ∈ tables.batches.map (·.payloadBytes), 0 ≤ value := by
    intro value member
    obtain ⟨row, belongs, rfl⟩ := List.mem_map.mp member
    exact pending.payloadBytes_nonneg row belongs
  have positive := SpoolTables.totalBytes_nonneg pending.payloadBytes_nonneg
  rw [selectTotalBytes, runs_noFaults, ok_bind, sumOf_of_nonneg nonneg, ← SpoolTables.totalBytes]
  by_cases fits : tables.totalBytes < 2 ^ 63
  · have small : tables.totalBytes.toNat < 2 ^ 63 := by omega
    have read : unsigned 0 tables.totalBytes = .ok (UInt64.ofNat tables.totalBytes.toNat) := by
      rw [← unsigned_of_nat small, Int.toNat_of_nonneg positive]
    rw [if_pos fits, if_pos fits, ok_bind]
    exact read
  · rw [if_neg fits, if_neg fits]
    rfl

theorem SpoolTables.Pending.evictOne_ok (pending : tables.Pending) (cutoff maxBytes : Nat)
    (fits : tables.totalBytes < 2 ^ 63) (clock : now.toNat < 2 ^ 63) :
    ∃ outcome, evictOne noFaults cutoff cutoff maxBytes now tables = .ok outcome := by
  have positive := SpoolTables.totalBytes_nonneg pending.payloadBytes_nonneg
  have wide : tables.totalBytes.toNat < 2 ^ 64 := by omega
  have read : (UInt64.ofNat tables.totalBytes.toNat).toNat = tables.totalBytes.toNat :=
    UInt64.toNat_ofNat_of_lt' wide
  have stored : integer (UInt64.ofNat tables.totalBytes.toNat).toNat "total_payload_bytes" =
      .ok tables.totalBytes := by
    rw [read, integer_of_lt _ (by omega), Int.toNat_of_nonneg positive]
  rw [evictOne, pending.selectTotalBytes_eq, if_pos fits, sqlite_ok, ok_bind, stored, anyhow_ok,
    ok_bind, selectCandidate, runs_noFaults, ok_bind]
  cases found : candidateRow cutoff tables.totalBytes maxBytes tables.batches with
  | none => exact ⟨none, rfl⟩
  | some row =>
      have member : row ∈ tables.batches := due_mem found
      have columns := pending.columns row member
      obtain ⟨seq, seqRead, seqSame, seqStored⟩ := integer_unsigned columns.seq 0 "gap seq"
      obtain ⟨least, leastRead, leastStored⟩ := integer_optional columns.minBucket 1 "gap min_bucket"
      obtain ⟨most, mostRead, mostStored⟩ := integer_optional columns.maxBucket 2 "gap max_bucket"
      obtain ⟨bytes, bytesRead, bytesSame, bytesStored⟩ :=
        integer_unsigned columns.payloadBytes 3 "gap lost_bytes"
      obtain ⟨created, createdRead, _, _⟩ := integer_unsigned columns.createdAt 4 "created_at"
      have seqColumn : integer seq.toNat "seq" = .ok row.seq := by
        rw [integer_of_lt "seq" (integer_ok seqStored).2, seqSame]
      have candidate : readCandidate row = .ok {
          seq, minBucket := least, maxBucket := most, payloadBytes := bytes
          createdAt := created } := by
        rw [readCandidate, seqRead, ok_bind, leastRead, ok_bind, mostRead, ok_bind, bytesRead,
          ok_bind, createdRead]
        rfl
      have free := gap_free (pending.fresh row member)
      simp only [candidate, ok_bind, pure_eq_ok, sqlite_ok, seqColumn, anyhow_ok, deleteBatch,
        runs_noFaults, insertGap, seqStored, leastStored, mostStored, bytesStored,
        integer_of_lt "gap created_at" clock, toSqlError_ok, free, Bool.false_eq_true, ↓reduceIte]
      exact ⟨_, rfl⟩

theorem SpoolTables.Pending.evict_totalBytes (pending : tables.Pending) (row : BatchRow)
    (reason : String) (now : UInt64) :
    (tables.evict row reason now).totalBytes ≤ tables.totalBytes :=
  SpoolTables.totalBytes_filter_le pending.payloadBytes_nonneg _

theorem SpoolTables.Pending.evictFrom_ok (pending : tables.Pending) (cutoff maxBytes : Nat)
    (fits : tables.totalBytes < 2 ^ 63) (clock : now.toNat < 2 ^ 63) (rounds start : Nat) :
    ∃ outcome, evictFrom noFaults cutoff cutoff maxBytes now rounds start tables = .ok outcome := by
  induction rounds generalizing tables start with
  | zero => exact ⟨_, rfl⟩
  | succ rounds ih =>
      obtain ⟨outcome, round⟩ := pending.evictOne_ok cutoff maxBytes fits clock
      have step := FlowObservability.evictOne_ok round
      rw [evictFrom, round, ok_bind]
      cases outcome with
      | none => exact ⟨_, rfl⟩
      | some next =>
          obtain ⟨row, _, rfl⟩ := step
          have smaller := pending.evict_totalBytes row (row.reason cutoff) now
          exact ih (pending.evict row) (by omega) (start + 1)

end Success

theorem SpoolTables.newest_survives {tables : SpoolTables} (pending : tables.Pending)
    {cutoff : Nat} {maxPayloadBytes : Int} {row : BatchRow} (member : row ∈ tables.batches)
    (newest : ∀ other ∈ tables.batches, other.seq ≤ row.seq)
    (young : (cutoff : Int) ≤ row.createdAt) (fits : row.payloadBytes ≤ maxPayloadBytes) :
    tables.Survives cutoff maxPayloadBytes row := by
  refine ⟨?_, young⟩
  obtain ⟨before, after, split⟩ := List.append_of_mem (SpoolTables.mem_inOrder.mpr member)
  have ordered := pending.inOrder_lt
  rw [split, List.pairwise_append, List.pairwise_cons] at ordered
  have last : after = [] := by
    rw [List.eq_nil_iff_forall_not_mem]
    intro other belongs
    have less := ordered.2.1.1 other belongs
    have most := newest other (SpoolTables.mem_inOrder.mp (by simp [split, belongs]))
    omega
  subst last
  have isSuffix : [row] <:+ tables.inOrder := by
    rw [split]
    exact List.suffix_append before [row]
  exact (withinBudget_longest isSuffix (by simpa using fits)).subset List.mem_cons_self

/-- The exact effect of `enforce_limits` on pending batches whose sizes have a sum in the INTEGER
range; with a larger sum it fails, as SQLite does. -/
theorem enforceLimits_exact (tables : SpoolTables) (pending : tables.Pending)
    (limits : SpoolLimits) (now : UInt64) (byteLimit : limits.maxPayloadBytes.toNat < 2 ^ 63)
    (clock : now.toNat < 2 ^ 63) :
    let cutoff := now.toNat - limits.maxAgeSeconds.toNat
    let maxPayloadBytes : Int := limits.maxPayloadBytes.toNat
    (tables.totalBytes < 2 ^ 63 →
      enforceLimits noFaults limits now tables =
        .ok ((tables.evicted cutoff maxPayloadBytes).length,
          tables.enforced cutoff maxPayloadBytes now)) ∧
    (2 ^ 63 ≤ tables.totalBytes →
      enforceLimits noFaults limits now tables = .error (.sqlite (.sqliteFailure .unknown))) ∧
    (∀ row ∈ tables.batches, (∀ other ∈ tables.batches, other.seq ≤ row.seq) →
      row.createdAt = now.toNat → row.payloadBytes ≤ maxPayloadBytes →
        tables.Survives cutoff maxPayloadBytes row) := by
  intro cutoff maxPayloadBytes
  have cutoffStored : integer cutoff "spool cutoff" = .ok (cutoff : Int) :=
    integer_of_lt _ (by omega)
  have maxStored := integer_of_lt "max_payload_bytes" byteLimit
  have unfolded : enforceLimits noFaults limits now tables =
      evictFrom noFaults cutoff cutoff limits.maxPayloadBytes.toNat now
        (tables.batches.length + 1) 0 tables := by
    have aged : ageCutoff now limits.maxAgeSeconds = cutoff := rfl
    simp only [enforceLimits, aged, cutoffStored, maxStored, anyhow_ok, ok_bind]
  refine ⟨?_, ?_, ?_⟩
  · intro fits
    obtain ⟨⟨count, next⟩, result⟩ := pending.evictFrom_ok cutoff limits.maxPayloadBytes.toNat fits
      clock (tables.batches.length + 1) 0
    rw [← unfolded] at result
    obtain ⟨evictions, settled⟩ := enforceLimits_ok result
    obtain ⟨same, counted⟩ := evictions.enforced pending settled
    rw [result, same, counted]
    rfl
  · intro exceeds
    rw [unfolded, evictFrom, evictOne, pending.selectTotalBytes_eq, if_neg (by omega)]
    rfl
  · intro row member newest created fits
    refine SpoolTables.newest_survives pending member newest ?_ fits
    rw [created]
    omega

def emptyBatch (seq createdAt payloadBytes : Int) : BatchRow where
  seq
  batchId := toString seq
  checksum := ""
  createdAt
  minBucket := none
  maxBucket := none
  payloadBytes
  payload := ""

theorem emptyBatch_unsigned (seq createdAt payloadBytes : Fin (2 ^ 63)) :
    (emptyBatch seq createdAt payloadBytes).Unsigned := by
  constructor
  · exact ⟨by simp [emptyBatch], by simp only [emptyBatch]; omega⟩
  · exact ⟨by simp [emptyBatch], by simp only [emptyBatch]; omega⟩
  · exact ⟨by simp [emptyBatch], by simp only [emptyBatch]; omega⟩
  · simp [emptyBatch]
  · simp [emptyBatch]

theorem enforceLimits_exact_two :
    enforceLimits noFaults { maxPayloadBytes := 700, maxAgeSeconds := 3600 } 110
        { batches := [emptyBatch 0 100 400, emptyBatch 1 110 400] } =
      .ok (1, {
        batches := [emptyBatch 1 110 400]
        gaps := [(emptyBatch 0 100 400).gap "spool_byte_limit" 110] }) := by
  have pending : SpoolTables.Pending
      { batches := [emptyBatch 0 100 400, emptyBatch 1 110 400] } := by
    constructor
    · simp only [List.forall_mem_cons]
      exact ⟨emptyBatch_unsigned 0 100 400, emptyBatch_unsigned 1 110 400, by simp⟩
    · decide
    · decide
  exact (enforceLimits_exact _ pending { maxPayloadBytes := 700, maxAgeSeconds := 3600 } 110
    (by decide) (by decide)).1 (by decide)

/-- Two batches whose sizes have no sum in the INTEGER range stop `enforce_limits`, and so does a
gap that already has the number of a batch to evict. -/
theorem enforceLimits_stuck :
    enforceLimits noFaults { maxPayloadBytes := 700, maxAgeSeconds := 3600 } 110
        { batches := [emptyBatch 0 100 (2 ^ 62), emptyBatch 1 110 (2 ^ 62)] } =
      .error (.sqlite (.sqliteFailure .unknown)) ∧
    enforceLimits noFaults { maxPayloadBytes := 700, maxAgeSeconds := 3600 } 110
        { batches := [emptyBatch 0 100 800]
          gaps := [(emptyBatch 0 100 400).gap "spool_byte_limit" 100] } =
      .error (.sqlite (.sqliteFailure .constraintViolation)) := by
  decide

end FlowObservability
