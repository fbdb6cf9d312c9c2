import FlowObservability.SpoolHistory

/-!
What `pending` reads: the envelopes enqueued whose numbers are still pending, oldest first.
-/

namespace FlowObservability

open Table Transaction

def SpoolTables.waiting (tables : SpoolTables) (enqueued : List BatchEnvelope) :
    List BatchEnvelope :=
  enqueued.filter fun envelope =>
    (tables.batches.map (·.seq)).contains (envelope.body.seq.toNat : Int)

section Waiting

variable {external : External} {enqueued : List BatchEnvelope} {acknowledged : List BatchRow}
  {tables : SpoolTables}

theorem Accounts.enqueued_lt (accounts : Accounts external enqueued acknowledged tables) :
    enqueued.Pairwise fun first second => first.body.seq.toNat < second.body.seq.toNat := by
  have numbers : (enqueued.map (·.body.seq.toNat)).Pairwise (· < ·) := by
    rw [accounts.numbered]
    exact List.pairwise_lt_range
  exact List.pairwise_map.mp numbers

theorem mem_waiting {envelope : BatchEnvelope} : envelope ∈ tables.waiting enqueued ↔
    envelope ∈ enqueued ∧ ∃ row ∈ tables.batches, row.seq = envelope.body.seq.toNat := by
  simp [SpoolTables.waiting, List.mem_filter]

theorem Accounts.row_of_seq (accounts : Accounts external enqueued acknowledged tables)
    {row : BatchRow} (stored : row ∈ tables.batches) {envelope : BatchEnvelope}
    (member : envelope ∈ enqueued) (same : row.seq = envelope.body.seq.toNat) :
    row = batchRow envelope := by
  obtain ⟨source, belongs, rfl⟩ := accounts.stored row stored
  have seqs : source.body.seq.toNat = envelope.body.seq.toNat := Int.ofNat_inj.mp same
  rw [accounts.envelope_eq belongs member (UInt64.toNat_inj.mp seqs)]

theorem Accounts.matches_iff (accounts : Accounts external enqueued acknowledged tables)
    {envelope : BatchEnvelope} (belongs : envelope ∈ enqueued) {row : BatchRow}
    (stored : row ∈ tables.batches) :
    matchesAck envelope.batchId envelope.checksum row = true ↔
      row.seq = envelope.body.seq.toNat := by
  constructor
  · intro matched
    obtain ⟨source, member, rfl⟩ := accounts.stored row stored
    simp only [matchesAck, batchRow, Bool.and_eq_true, beq_iff_eq] at matched
    have fields := (accounts.isSealed source member).batchId_fields
      (accounts.isSealed envelope belongs) matched.1
    simp only [batchRow, fields.1]
  · intro same
    rw [accounts.row_of_seq stored belongs same]
    simp [matchesAck, batchRow]

theorem Accounts.batches_eq (accounts : Accounts external enqueued acknowledged tables) :
    tables.batches = (tables.waiting enqueued).map batchRow := by
  have ordered : ((tables.waiting enqueued).map batchRow).Pairwise
      fun first second => first.seq < second.seq := by
    rw [List.pairwise_map]
    exact (accounts.enqueued_lt.filter _).imp fun less => Int.ofNat_lt.mpr less
  have distinct (rows : List BatchRow)
      (increasing : rows.Pairwise fun first second => first.seq < second.seq) : rows.Nodup :=
    increasing.imp fun less same => by simp [same] at less
  have sameRows : tables.batches.Perm ((tables.waiting enqueued).map batchRow) := by
    rw [List.perm_ext_iff_of_nodup (distinct _ accounts.ordered) (distinct _ ordered)]
    intro row
    rw [List.mem_map]
    constructor
    · intro stored
      obtain ⟨envelope, belongs, rfl⟩ := accounts.stored row stored
      exact ⟨envelope, mem_waiting.mpr ⟨belongs, batchRow envelope, stored, rfl⟩, rfl⟩
    · rintro ⟨envelope, waits, rfl⟩
      obtain ⟨belongs, row, stored, same⟩ := mem_waiting.mp waits
      rw [← accounts.row_of_seq stored belongs same]
      exact stored
  refine sameRows.eq_of_pairwise ?_ accounts.ordered ordered
  intro first second _ _ less greater
  exact absurd (less.trans greater) (lt_irrefl _)

theorem Accounts.pending_eq (accounts : Accounts external enqueued acknowledged tables)
    (payload : ∀ envelope ∈ enqueued, external.fromSlice (toVec envelope) = some envelope)
    (faults : SpoolFaults) (limit : Nat) (small : limit < 2 ^ 63) :
    Spool.pending external faults limit tables = (do
      sqlite (runs faults .selectPending tables)
      return (tables.waiting enqueued).take limit) := by
  have inOrder : orderBy (·.seq) tables.batches = tables.batches :=
    orderBy_eq (List.Perm.refl _) accounts.ordered
  have decoded : (((tables.waiting enqueued).take limit).map batchRow).mapM
      (decodePending external) = .ok ((tables.waiting enqueued).take limit) := by
    apply mapM_of_inverse
    intro envelope member
    have belongs := (mem_waiting.mp (List.mem_of_mem_take member)).1
    simp [decodePending, batchRow, payload envelope belongs]
  rw [Spool.pending, if_neg (by omega), inOrder, accounts.batches_eq, ← List.map_take, decoded]
  rfl

end Waiting

end FlowObservability
