import FlowObservability.Library.Runs
import FlowObservability.SpoolSteps

/-!
Runs of calls on one spool database, with a record of every envelope enqueued and every
row acknowledged. The invariant accounts for each sequence number exactly once.
-/

namespace FlowObservability

open Runs Table Transaction

inductive SpoolCall where
  | open (faults : SpoolFaults) (limits : SpoolLimits)
  | enqueue (faults : SpoolFaults) (args : EnqueueArgs)
  | acknowledge (faults : SpoolFaults) (batchId checksum : String)

/-- A spool database, the limits of the connection open on it, and what has happened to it. -/
structure SpoolHistory where
  tables : SpoolTables := {}
  limits : Option SpoolLimits := none
  enqueued : List BatchEnvelope := []
  acknowledged : List BatchRow := []
  evictedBatches : Nat := 0

def SpoolTables.counter (tables : SpoolTables) : Int := tables.nextSeq.getD 0

def SpoolTables.nextEnvelope (external : External) (tables : SpoolTables) (args : EnqueueArgs) :
    BatchEnvelope :=
  args.envelope external (UInt64.ofNat tables.counter.toNat)

theorem nextEnvelope_of_counter {external : External} {tables : SpoolTables} {args : EnqueueArgs}
    {seq : UInt64} (counter : tables.nextSeq = some (seq.toNat : Int)) :
    tables.nextEnvelope external args = args.envelope external seq := by
  simp [SpoolTables.nextEnvelope, SpoolTables.counter, counter]

def SpoolHistory.enqueue (external : External) (history : SpoolHistory) (faults : SpoolFaults)
    (limits : SpoolLimits) (args : EnqueueArgs) : SpoolHistory :=
  match Spool.enqueue external faults limits args history.tables with
  | (.ok result, tables) => { history with
      tables
      enqueued := history.enqueued ++ [history.tables.nextEnvelope external args]
      evictedBatches := history.evictedBatches + result.evictedBatches }
  | (.error _, tables) => { history with tables }

def SpoolHistory.acknowledge (history : SpoolHistory) (faults : SpoolFaults)
    (batchId checksum : String) : SpoolHistory :=
  match Spool.acknowledge faults batchId checksum history.tables with
  | (.ok (), tables) => { history with
      tables
      acknowledged := history.acknowledged ++
        history.tables.batches.filter (matchesAck batchId checksum) }
  | (.error _, tables) => { history with tables }

def SpoolHistory.step (external : External) (history : SpoolHistory) : SpoolCall → SpoolHistory
  | .open faults limits =>
    match Spool.open faults limits history.tables with
    | (.ok spool, tables) => { history with tables, limits := some spool.limits }
    | (.error _, tables) => { history with tables }
  | .enqueue faults args =>
    match history.limits with
    | none => history
    | some limits => history.enqueue external faults limits args
  | .acknowledge faults batchId checksum =>
    match history.limits with
    | none => history
    | some _ => history.acknowledge faults batchId checksum

def SpoolHistory.run (external : External) (calls : List SpoolCall) : SpoolHistory :=
  Runs.run (SpoolHistory.step external) {} calls

def sequenceNumbers (count : Nat) : List Int := (List.range count).map Int.ofNat

theorem sequenceNumbers_nodup (count : Nat) : (sequenceNumbers count).Nodup :=
  List.nodup_range.map Int.ofNat_injective

theorem sequenceNumbers_succ (count : Nat) :
    sequenceNumbers (count + 1) = sequenceNumbers count ++ [(count : Int)] := by
  simp [sequenceNumbers, List.range_succ]

theorem lt_of_mem_sequenceNumbers {count : Nat} {number : Int}
    (member : number ∈ sequenceNumbers count) : number < count := by
  obtain ⟨index, below, same⟩ := List.mem_map.mp member
  have bound := List.mem_range.mp below
  rw [← same]
  exact Int.ofNat_lt.mpr bound

/-- The tables account for every envelope enqueued: each sequence number below the counter
is pending, a gap or acknowledged, and never two of these. -/
structure Accounts (external : External) (enqueued : List BatchEnvelope)
    (acknowledged : List BatchRow) (tables : SpoolTables) : Prop where
  counter : tables.counter = enqueued.length
  isSealed : ∀ envelope ∈ enqueued, envelope.Sealed external
  numbered : enqueued.map (·.body.seq.toNat) = List.range enqueued.length
  partition : (tables.batches.map (·.seq) ++ tables.gaps.map (·.seq) ++
    acknowledged.map (·.seq)).Perm (sequenceNumbers enqueued.length)
  ordered : tables.batches.Pairwise fun earlier later => earlier.seq < later.seq
  stored : ∀ row ∈ tables.batches, ∃ envelope ∈ enqueued, row = batchRow envelope
  settled : ∀ row ∈ acknowledged, ∃ envelope ∈ enqueued, row = batchRow envelope
  lost : ∀ gap ∈ tables.gaps, ∃ envelope ∈ enqueued, ∃ reason now,
    gap = (batchRow envelope).gap reason now

theorem accounts_initial (external : External) : Accounts external [] [] {} := by
  constructor <;> simp [SpoolTables.counter, sequenceNumbers]

section Invariant

variable {external : External} {enqueued : List BatchEnvelope} {acknowledged : List BatchRow}
  {tables next : SpoolTables}

theorem Accounts.seq_nodup (accounts : Accounts external enqueued acknowledged tables) :
    (tables.batches.map (·.seq) ++ tables.gaps.map (·.seq) ++ acknowledged.map (·.seq)).Nodup := by
  exact accounts.partition.nodup_iff.mpr (sequenceNumbers_nodup _)

theorem Accounts.batches_nodup (accounts : Accounts external enqueued acknowledged tables) :
    (tables.batches.map (·.seq)).Nodup :=
  (List.nodup_append.mp (List.nodup_append.mp accounts.seq_nodup).1).1

theorem Accounts.envelope_eq (accounts : Accounts external enqueued acknowledged tables)
    {first second : BatchEnvelope} (firstMem : first ∈ enqueued) (secondMem : second ∈ enqueued)
    (same : first.body.seq = second.body.seq) : first = second := by
  have distinct : (enqueued.map (·.body.seq.toNat)).Nodup := by
    rw [accounts.numbered]
    exact List.nodup_range
  exact List.inj_on_of_nodup_map distinct firstMem secondMem (by rw [same])

theorem Accounts.seq_lt (accounts : Accounts external enqueued acknowledged tables)
    {envelope : BatchEnvelope} (member : envelope ∈ enqueued) :
    envelope.body.seq.toNat < enqueued.length := by
  have number : envelope.body.seq.toNat ∈ enqueued.map (·.body.seq.toNat) :=
    List.mem_map_of_mem member
  rw [accounts.numbered] at number
  exact List.mem_range.mp number

theorem Accounts.evict (accounts : Accounts external enqueued acknowledged tables)
    {row : BatchRow} (member : row ∈ tables.batches) (reason : String) (now : UInt64) :
    Accounts external enqueued acknowledged (tables.evict row reason now) := by
  refine ⟨accounts.counter, accounts.isSealed, accounts.numbered, ?_, ?_, ?_, accounts.settled, ?_⟩
  · have split := (perm_cons_filter_ne accounts.batches_nodup member).map (·.seq)
    refine List.Perm.trans ?_ accounts.partition
    apply List.perm_iff_count.mpr
    intro number
    have counts := List.perm_iff_count.mp split number
    simp only [List.map_cons, List.count_cons] at counts
    simp only [SpoolTables.evict, BatchRow.gap, List.map_append, List.count_append, List.map_cons,
      List.map_nil, List.count_cons, List.count_nil]
    omega
  · exact accounts.ordered.filter _
  · intro other kept
    exact accounts.stored other (List.mem_of_mem_filter kept)
  · intro gap added
    rcases List.mem_append.mp added with old | new
    · exact accounts.lost gap old
    · obtain ⟨envelope, belongs, same⟩ := accounts.stored row member
      have gapEq := List.mem_singleton.mp new
      exact ⟨envelope, belongs, reason, now, by rw [gapEq, same]⟩

theorem Accounts.evictions {cutoff count : Nat} {maxPayloadBytes : Int} {now : UInt64}
    (accounts : Accounts external enqueued acknowledged tables)
    (evictions : Evictions cutoff maxPayloadBytes now count tables next) :
    Accounts external enqueued acknowledged next ∧
      next.gaps.length = tables.gaps.length + count := by
  induction evictions with
  | done tables => exact ⟨accounts, rfl⟩
  | round due rest ih =>
      obtain ⟨kept, gaps⟩ := ih (accounts.evict (due_mem due) _ _)
      refine ⟨kept, ?_⟩
      simp only [SpoolTables.evict, List.length_append, List.length_singleton] at gaps
      omega

theorem Accounts.number_lt (accounts : Accounts external enqueued acknowledged tables)
    {number : Int} (member : number ∈ tables.batches.map (·.seq) ++ tables.gaps.map (·.seq) ++
      acknowledged.map (·.seq)) : number < enqueued.length :=
  lt_of_mem_sequenceNumbers (accounts.partition.subset member)

section NewBatch

variable {envelope : BatchEnvelope} (accounts : Accounts external enqueued acknowledged tables)
  (isSealed : envelope.Sealed external) (fresh : envelope.body.seq.toNat = enqueued.length)
include accounts isSealed fresh

omit isSealed in
theorem Accounts.extend_numbered :
    (enqueued ++ [envelope]).map (·.body.seq.toNat) = List.range (enqueued ++ [envelope]).length := by
  simp [accounts.numbered, fresh, List.range_succ]

omit fresh in
theorem Accounts.extend_sealed :
    ∀ other ∈ enqueued ++ [envelope], other.Sealed external := by
  intro other member
  rcases List.mem_append.mp member with old | new
  · exact accounts.isSealed other old
  · rw [List.mem_singleton.mp new]
    exact isSealed

theorem Accounts.insert :
    Accounts external (enqueued ++ [envelope]) acknowledged { tables with
      nextSeq := some (envelope.body.seq.toNat + 1)
      batches := tables.batches ++ [batchRow envelope] } := by
  refine ⟨?_, accounts.extend_sealed isSealed, accounts.extend_numbered fresh,
    ?_, ?_, ?_, ?_, ?_⟩
  · simp [SpoolTables.counter, fresh]
  · apply List.perm_iff_count.mpr
    intro number
    have counts := List.perm_iff_count.mp accounts.partition number
    simp only [List.count_append] at counts
    simp only [List.map_append, List.count_append, List.map_cons, List.map_nil, batchRow, fresh,
      List.length_append, List.length_singleton, sequenceNumbers_succ]
    omega
  · apply List.pairwise_append.mpr
    refine ⟨accounts.ordered, by simp, ?_⟩
    intro row member last lastMem
    rw [List.mem_singleton.mp lastMem]
    have below : row.seq < enqueued.length := accounts.number_lt
      (List.mem_append_left _ (List.mem_append_left _ (List.mem_map_of_mem member)))
    simpa [batchRow, fresh] using below
  · intro row member
    rcases List.mem_append.mp member with old | new
    · obtain ⟨source, belongs, same⟩ := accounts.stored row old
      exact ⟨source, List.mem_append_left _ belongs, same⟩
    · exact ⟨envelope, by simp, List.mem_singleton.mp new⟩
  · intro row member
    obtain ⟨source, belongs, same⟩ := accounts.settled row member
    exact ⟨source, List.mem_append_left _ belongs, same⟩
  · intro gap member
    obtain ⟨source, belongs, rest⟩ := accounts.lost gap member
    exact ⟨source, List.mem_append_left _ belongs, rest⟩

theorem Accounts.skip (reason : String) (now : UInt64) :
    Accounts external (enqueued ++ [envelope]) acknowledged { tables with
      nextSeq := some (envelope.body.seq.toNat + 1)
      gaps := tables.gaps ++ [(batchRow envelope).gap reason now] } := by
  refine ⟨?_, accounts.extend_sealed isSealed, accounts.extend_numbered fresh,
    ?_, accounts.ordered, ?_, ?_, ?_⟩
  · simp [SpoolTables.counter, fresh]
  · apply List.perm_iff_count.mpr
    intro number
    have counts := List.perm_iff_count.mp accounts.partition number
    simp only [List.count_append] at counts
    simp only [List.map_append, List.count_append, List.map_cons, List.map_nil, batchRow,
      BatchRow.gap, fresh, List.length_append, List.length_singleton, sequenceNumbers_succ]
    omega
  · intro row member
    obtain ⟨source, belongs, same⟩ := accounts.stored row member
    exact ⟨source, List.mem_append_left _ belongs, same⟩
  · intro row member
    obtain ⟨source, belongs, same⟩ := accounts.settled row member
    exact ⟨source, List.mem_append_left _ belongs, same⟩
  · intro gap member
    rcases List.mem_append.mp member with old | new
    · obtain ⟨source, belongs, rest⟩ := accounts.lost gap old
      exact ⟨source, List.mem_append_left _ belongs, rest⟩
    · exact ⟨envelope, by simp, reason, now, List.mem_singleton.mp new⟩

theorem Accounts.store {limits : SpoolLimits} {evicted : Nat}
    (stored : Stored limits envelope
      { tables with nextSeq := some (envelope.body.seq.toNat + 1) } evicted next) :
    Accounts external (enqueued ++ [envelope]) acknowledged next ∧
      next.gaps.length = tables.gaps.length + evicted := by
  cases stored with
  | oversized tooLarge =>
      exact ⟨accounts.skip isSealed fresh _ _, by simp⟩
  | kept fits params evictions settled =>
      exact (accounts.insert isSealed fresh).evictions evictions

end NewBatch

theorem Accounts.row_eq (accounts : Accounts external enqueued acknowledged tables)
    {first second : BatchRow} (firstMem : first ∈ tables.batches)
    (secondMem : second ∈ tables.batches) (same : first.batchId = second.batchId) :
    first = second := by
  obtain ⟨firstEnvelope, firstIn, firstEq⟩ := accounts.stored first firstMem
  obtain ⟨secondEnvelope, secondIn, secondEq⟩ := accounts.stored second secondMem
  rw [firstEq, secondEq] at same
  have fields := (accounts.isSealed _ firstIn).batchId_fields (accounts.isSealed _ secondIn) same
  rw [firstEq, secondEq, accounts.envelope_eq firstIn secondIn fields.1]

/-- The UNIQUE batch id lets an acknowledgement delete one row at most. -/
theorem Accounts.acknowledged_le_one (accounts : Accounts external enqueued acknowledged tables)
    (batchId checksum : String) :
    (tables.batches.filter (matchesAck batchId checksum)).length ≤ 1 := by
  apply filter_length_le_one accounts.batches_nodup.of_map
  intro first firstMem second secondMem firstMatch secondMatch
  simp only [matchesAck, Bool.and_eq_true, beq_iff_eq] at firstMatch secondMatch
  exact accounts.row_eq firstMem secondMem (firstMatch.1.trans secondMatch.1.symm)

theorem Accounts.settle (accounts : Accounts external enqueued acknowledged tables)
    (batchId checksum : String) :
    Accounts external enqueued
      (acknowledged ++ tables.batches.filter (matchesAck batchId checksum)) { tables with
        batches := tables.batches.filter fun row => !matchesAck batchId checksum row } := by
  refine ⟨accounts.counter, accounts.isSealed, accounts.numbered, ?_, accounts.ordered.filter _,
    ?_, ?_, accounts.lost⟩
  · have split := (List.filter_append_perm (matchesAck batchId checksum) tables.batches).map
      (·.seq)
    refine List.Perm.trans ?_ accounts.partition
    apply List.perm_iff_count.mpr
    intro number
    have counts := List.perm_iff_count.mp split number
    simp only [List.map_append, List.count_append] at counts ⊢
    omega
  · intro row member
    exact accounts.stored row (List.mem_of_mem_filter member)
  · intro row member
    rcases List.mem_append.mp member with old | new
    · exact accounts.settled row old
    · exact accounts.stored row (List.mem_of_mem_filter new)

theorem Accounts.reopen (accounts : Accounts external enqueued acknowledged tables) :
    Accounts external enqueued acknowledged
      { tables with nextSeq := some (tables.nextSeq.getD 0) } :=
  ⟨accounts.counter, accounts.isSealed, accounts.numbered, accounts.partition, accounts.ordered,
    accounts.stored, accounts.settled, accounts.lost⟩

theorem Accounts.acknowledge_result (accounts : Accounts external enqueued acknowledged tables)
    {faults : SpoolFaults} {batchId checksum : String} {outcome : Except AnyhowError Unit}
    (result : Spool.acknowledge faults batchId checksum tables = (outcome, next)) :
    (∃ error, outcome = .error error ∧ next = tables) ∨
      (outcome = .ok () ∧
        (tables.batches.filter (matchesAck batchId checksum)).length = 1 ∧
        next = { tables with
          batches := tables.batches.filter fun row => !matchesAck batchId checksum row }) := by
  have single := accounts.acknowledged_le_one batchId checksum
  unfold Spool.acknowledge at result
  split at result
  · simp only [Prod.mk.injEq] at result
    exact Or.inl ⟨_, result.1.symm, result.2.symm⟩
  · dsimp only at result
    split at result
    · rename_i refused
      simp only [Prod.mk.injEq] at result
      have noMatch : tables.batches.filter (matchesAck batchId checksum) = [] :=
        List.length_eq_zero_iff.mp (by omega)
      have all : tables.batches.filter (fun row => !matchesAck batchId checksum row) =
          tables.batches := by
        rw [List.filter_eq_self]
        intro row member
        have unmatched := List.filter_eq_nil_iff.mp noMatch row member
        simpa using unmatched
      rw [all] at result
      exact Or.inl ⟨_, result.1.symm, result.2.symm⟩
    · rename_i accepted
      simp only [Prod.mk.injEq] at result
      exact Or.inr ⟨result.1.symm, by omega, result.2.symm⟩

end Invariant

theorem Spool.open_result {faults : SpoolFaults} {limits : SpoolLimits}
    {tables next : SpoolTables} {outcome : Except AnyhowError Spool}
    (result : Spool.open faults limits tables = (outcome, next)) :
    (next = tables ∨ next = { tables with nextSeq := some (tables.nextSeq.getD 0) }) ∧
      ∀ spool, outcome = .ok spool → spool.limits = limits := by
  unfold Spool.open at result
  split at result
  · obtain ⟨rfl, rfl⟩ := Prod.mk.inj result
    exact ⟨Or.inl rfl, by simp⟩
  · split at result
    · obtain ⟨rfl, rfl⟩ := Prod.mk.inj result
      exact ⟨Or.inl rfl, by simp⟩
    · split at result
      · obtain ⟨rfl, rfl⟩ := Prod.mk.inj result
        exact ⟨Or.inl rfl, by simp⟩
      · split at result
        · obtain ⟨rfl, rfl⟩ := Prod.mk.inj result
          exact ⟨Or.inl rfl, by simp⟩
        · dsimp only at result
          split at result
          · obtain ⟨rfl, rfl⟩ := Prod.mk.inj result
            exact ⟨Or.inr rfl, by simp⟩
          · obtain ⟨rfl, rfl⟩ := Prod.mk.inj result
            refine ⟨Or.inr rfl, ?_⟩
            intro spool same
            rw [← Except.ok.inj same]

structure SpoolHistory.Accounted (external : External) (history : SpoolHistory) : Prop where
  accounts : Accounts external history.enqueued history.acknowledged history.tables
  counted : history.evictedBatches = history.tables.gaps.length

section Steps

variable {external : External} {history : SpoolHistory}

theorem SpoolHistory.Accounted.enqueue_ok (accounted : history.Accounted external)
    {faults : SpoolFaults} {limits : SpoolLimits} {args : EnqueueArgs} {next : SpoolTables}
    {value : EnqueueResult}
    (result : Spool.enqueue external faults limits args history.tables = (.ok value, next)) :
    (history.tables.nextEnvelope external args).body.seq.toNat = history.enqueued.length ∧
      value.batchId = (history.tables.nextEnvelope external args).batchId ∧
      Stored limits (history.tables.nextEnvelope external args) { history.tables with
        nextSeq := some ((history.tables.nextEnvelope external args).body.seq.toNat + 1 : Int) }
        value.evictedBatches next := by
  obtain ⟨seq, counter, bound, batchId, stored⟩ := Spool.enqueue_ok result
  rw [nextEnvelope_of_counter counter]
  refine ⟨?_, batchId, stored⟩
  have total := accounted.accounts.counter
  simp only [SpoolTables.counter, counter, Option.getD_some] at total
  exact Int.ofNat_inj.mp total

/-! What each call can do to a history. -/

theorem SpoolHistory.step_open (history : SpoolHistory) (faults : SpoolFaults)
    (limits : SpoolLimits) :
    ∃ tables current, history.step external (.open faults limits) =
        { history with tables, limits := current } ∧
      (tables = history.tables ∨
        tables = { history.tables with nextSeq := some (history.tables.nextSeq.getD 0) }) ∧
      (current = history.limits ∨ current = some limits) := by
  simp only [SpoolHistory.step]
  split
  · rename_i spool next result
    obtain ⟨tables, limitsEq⟩ := Spool.open_result result
    exact ⟨next, _, rfl, tables, .inr (congrArg some (limitsEq spool rfl))⟩
  · rename_i error next result
    exact ⟨next, _, rfl, (Spool.open_result result).1, .inl rfl⟩

theorem SpoolHistory.step_enqueue (history : SpoolHistory) (faults : SpoolFaults)
    (args : EnqueueArgs) :
    history.step external (.enqueue faults args) = history ∨
      ∃ limits value next, history.limits = some limits ∧
        Spool.enqueue external faults limits args history.tables = (.ok value, next) ∧
        history.step external (.enqueue faults args) = { history with
          tables := next
          enqueued := history.enqueued ++ [history.tables.nextEnvelope external args]
          evictedBatches := history.evictedBatches + value.evictedBatches } := by
  simp only [SpoolHistory.step]
  split
  · exact .inl rfl
  · rename_i limits opened
    unfold SpoolHistory.enqueue
    split
    · rename_i value next result
      exact .inr ⟨limits, value, next, opened, result, rfl⟩
    · rename_i error next result
      rw [transact_error result]
      exact .inl rfl

theorem SpoolHistory.Accounted.acknowledge_cases (accounted : history.Accounted external)
    (faults : SpoolFaults) (batchId checksum : String) :
    (history.acknowledge faults batchId checksum = history ∧
      ∃ error, (Spool.acknowledge faults batchId checksum history.tables).1 = .error error) ∨
      (history.tables.batches.filter (matchesAck batchId checksum)).length = 1 ∧
        history.acknowledge faults batchId checksum = { history with
          tables := { history.tables with
            batches := history.tables.batches.filter fun row => !matchesAck batchId checksum row }
          acknowledged := history.acknowledged ++
            history.tables.batches.filter (matchesAck batchId checksum) } := by
  obtain ⟨⟨outcome, next⟩, result⟩ : ∃ outcome, Spool.acknowledge faults batchId checksum
    history.tables = outcome := ⟨_, rfl⟩
  rw [SpoolHistory.acknowledge, result]
  rcases accounted.accounts.acknowledge_result result with ⟨error, rfl, rfl⟩ | ⟨rfl, single, rfl⟩
  · exact .inl ⟨rfl, error, rfl⟩
  · exact .inr ⟨single, rfl⟩

theorem SpoolHistory.Accounted.step_acknowledge (accounted : history.Accounted external)
    (faults : SpoolFaults) (batchId checksum : String) :
    history.step external (.acknowledge faults batchId checksum) = history ∨
      history.step external (.acknowledge faults batchId checksum) = { history with
        tables := { history.tables with
          batches := history.tables.batches.filter fun row => !matchesAck batchId checksum row }
        acknowledged := history.acknowledged ++
          history.tables.batches.filter (matchesAck batchId checksum) } := by
  simp only [SpoolHistory.step]
  split
  · exact .inl rfl
  · rcases accounted.acknowledge_cases faults batchId checksum with ⟨same, _⟩ | ⟨_, settled⟩
    · exact .inl same
    · exact .inr settled

theorem SpoolHistory.Accounted.acknowledge (accounted : history.Accounted external)
    (faults : SpoolFaults) (batchId checksum : String) :
    (history.acknowledge faults batchId checksum).Accounted external := by
  rcases accounted.acknowledge_cases faults batchId checksum with ⟨same, _⟩ | ⟨_, settled⟩
  · rw [same]
    exact accounted
  · rw [settled]
    exact ⟨accounted.accounts.settle batchId checksum, accounted.counted⟩

theorem SpoolHistory.Accounted.step (accounted : history.Accounted external) (call : SpoolCall) :
    (history.step external call).Accounted external := by
  cases call with
  | «open» faults limits =>
      obtain ⟨tables, current, opened, same | created, _⟩ := history.step_open faults limits
      · rw [opened, same]
        exact ⟨accounted.accounts, accounted.counted⟩
      · rw [opened, created]
        exact ⟨accounted.accounts.reopen, accounted.counted⟩
  | enqueue faults args =>
      rcases history.step_enqueue faults args with same | ⟨limits, value, next, _, result, after⟩
      · rw [same]
        exact accounted
      · rw [after]
        obtain ⟨fresh, _, stored⟩ := accounted.enqueue_ok result
        obtain ⟨accounts, gaps⟩ :=
          accounted.accounts.store (BatchEnvelope.new_sealed ..) fresh stored
        exact ⟨accounts, by rw [accounted.counted, gaps]⟩
  | acknowledge faults batchId checksum =>
      simp only [SpoolHistory.step]
      split
      · exact accounted
      · exact accounted.acknowledge faults batchId checksum

theorem SpoolHistory.run_accounted (external : External) (calls : List SpoolCall) :
    (SpoolHistory.run external calls).Accounted external := by
  apply run_invariant
  · exact ⟨accounts_initial external, rfl⟩
  · intro history call _ accounted
    exact accounted.step call

theorem SpoolHistory.enqueued_acknowledge (faults : SpoolFaults) (batchId checksum : String) :
    (history.acknowledge faults batchId checksum).enqueued = history.enqueued := by
  unfold SpoolHistory.acknowledge
  split
  · rfl
  · rfl

theorem SpoolHistory.tables_acknowledge (faults : SpoolFaults) (batchId checksum : String) :
    (history.acknowledge faults batchId checksum).tables =
      (Spool.acknowledge faults batchId checksum history.tables).2 := by
  unfold SpoolHistory.acknowledge
  split
  · rename_i outcome
    rw [outcome]
  · rename_i outcome
    rw [outcome]

theorem SpoolHistory.enqueued_step (call : SpoolCall) :
    history.enqueued ⊆ (history.step external call).enqueued := by
  cases call with
  | «open» faults limits =>
      obtain ⟨tables, current, opened, _⟩ := history.step_open faults limits
      rw [opened]
      exact List.Subset.refl _
  | enqueue faults args =>
      rcases history.step_enqueue faults args with same | ⟨_, _, _, _, _, after⟩
      · rw [same]
        exact List.Subset.refl _
      · rw [after]
        exact List.subset_append_left _ _
  | acknowledge faults batchId checksum =>
      simp only [SpoolHistory.step]
      split
      · exact List.Subset.refl _
      · rw [SpoolHistory.enqueued_acknowledge]
        exact List.Subset.refl _

end Steps

end FlowObservability
