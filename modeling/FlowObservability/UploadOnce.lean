import FlowObservability.SpoolPending
import FlowObservability.Upload

/-!
The loop of `upload_once` over the batches `pending` has read, against any peer.
-/

namespace FlowObservability

open Table Transaction

structure UploadReport where
  acknowledged : UInt64
  deriving DecidableEq, Repr

/-- What `ureq` makes of an exchange: no response, one whose body is no ack, or one of the route. -/
inductive Reply where
  | lost
  | garbled
  | response (response : Response)
  deriving DecidableEq, Repr

def readReply (envelope : BatchEnvelope) : Reply → Except AnyhowError Unit
  | .lost => .error (.message ("upload batch " ++ envelope.batchId))
  | .garbled => .error (.message "decode ingest ack")
  | .response response => readAck envelope response

abbrev Peer (σ : Type) := String → σ → Reply × σ

section Upload

variable {σ : Type}

def uploadFrom (peer : Peer σ) (faults : SpoolFaults) :
    List BatchEnvelope → UInt64 → σ → SpoolTables →
      Except AnyhowError UploadReport × σ × SpoolTables
  | [], acknowledged, state, tables => (.ok { acknowledged }, state, tables)
  | envelope :: rest, acknowledged, state, tables =>
    let exchange := peer (uploadBody envelope) state
    match readReply envelope exchange.1 with
    | .error error => (.error error, exchange.2, tables)
    | .ok () =>
      let deletion := Spool.acknowledge faults envelope.batchId envelope.checksum tables
      match deletion.1 with
      | .error error => (.error error, exchange.2, deletion.2)
      | .ok () => uploadFrom peer faults rest (acknowledged + 1) exchange.2 deletion.2

def uploadOnce (external : External) (peer : Peer σ) (faults : SpoolFaults) (limit : Nat)
    (state : σ) (tables : SpoolTables) : Except AnyhowError UploadReport × σ × SpoolTables :=
  match Spool.pending external faults limit tables with
  | .error error => (.error error, state, tables)
  | .ok queue => uploadFrom peer faults queue 0 state tables

inductive Acknowledges (peer : Peer σ) : σ → List BatchEnvelope → σ → Prop
  | nil (state) : Acknowledges peer state [] state
  | cons {state last envelope rest}
      (acked : readReply envelope (peer (uploadBody envelope) state).1 = .ok ())
      (later : Acknowledges peer (peer (uploadBody envelope) state).2 rest last) :
      Acknowledges peer state (envelope :: rest) last

/-- How an upload of a queue ends, from a count: all of it acknowledged, or an error at an
envelope and everything from it on left. -/
inductive Uploaded (peer : Peer σ) (state : σ) (count : UInt64) (queue : List BatchEnvelope) :
    List BatchEnvelope → List BatchEnvelope → Except AnyhowError UploadReport × σ → Prop
  | finished {last} (acknowledges : Acknowledges peer state queue last) :
      Uploaded peer state count queue queue []
        (.ok { acknowledged := count + UInt64.ofNat queue.length }, last)
  | stopped {sent envelope rest last error} (split : queue = sent ++ envelope :: rest)
      (acknowledges : Acknowledges peer state sent last)
      (refused : readReply envelope (peer (uploadBody envelope) last).1 = .error error) :
      Uploaded peer state count queue sent (envelope :: rest)
        (.error error, (peer (uploadBody envelope) last).2)

theorem Uploaded.split {peer : Peer σ} {state : σ} {count : UInt64}
    {queue sent rest : List BatchEnvelope} {ended : Except AnyhowError UploadReport × σ}
    (uploaded : Uploaded peer state count queue sent rest ended) : queue = sent ++ rest := by
  cases uploaded with
  | finished acknowledges => exact (List.append_nil queue).symm
  | stopped split acknowledges refused => exact split

theorem Uploaded.cons {peer : Peer σ} {state : σ} {count : UInt64} {envelope : BatchEnvelope}
    {queue sent rest : List BatchEnvelope} {ended : Except AnyhowError UploadReport × σ}
    (acked : readReply envelope (peer (uploadBody envelope) state).1 = .ok ())
    (uploaded : Uploaded peer (peer (uploadBody envelope) state).2 (count + 1) queue sent rest
      ended) :
    Uploaded peer state count (envelope :: queue) (envelope :: sent) rest ended := by
  cases uploaded with
  | finished acknowledges =>
      have counted : count + 1 + UInt64.ofNat queue.length =
          count + UInt64.ofNat (envelope :: queue).length := by
        rw [List.length_cons, UInt64.ofNat_add, UInt64.add_assoc]
        congr 1
        exact UInt64.add_comm _ _
      rw [counted]
      exact .finished (.cons acked acknowledges)
  | stopped split acknowledges refused =>
      exact .stopped (by rw [split, List.cons_append]) (.cons acked acknowledges) refused

end Upload

section Waiting

variable {external : External} {enqueued : List BatchEnvelope} {acknowledged : List BatchRow}
  {tables : SpoolTables} {envelope : BatchEnvelope} {others : List BatchEnvelope}

theorem Accounts.waiting_eq (accounts : Accounts external enqueued acknowledged tables)
    (rows : tables.batches = others.map batchRow) (belongs : ∀ other ∈ others, other ∈ enqueued) :
    tables.waiting enqueued = others := by
  have ordered : (tables.waiting enqueued).Pairwise
      fun first second => first.body.seq.toNat < second.body.seq.toNat :=
    accounts.enqueued_lt.filter _
  have increasing : others.Pairwise
      fun first second => first.body.seq.toNat < second.body.seq.toNat := by
    have sorted := accounts.ordered
    rw [rows, List.pairwise_map] at sorted
    exact sorted.imp fun less => Int.ofNat_lt.mp less
  have distinct (envelopes : List BatchEnvelope) (less : envelopes.Pairwise
      fun first second => first.body.seq.toNat < second.body.seq.toNat) : envelopes.Nodup :=
    less.imp fun below same => by simp [same] at below
  have sameMembers : (tables.waiting enqueued).Perm others := by
    refine (List.perm_ext_iff_of_nodup (distinct _ ordered) (distinct _ increasing)).mpr ?_
    intro source
    rw [mem_waiting]
    constructor
    · rintro ⟨member, row, stored, same⟩
      rw [rows] at stored
      obtain ⟨other, held, rfl⟩ := List.mem_map.mp stored
      have seqs : other.body.seq.toNat = source.body.seq.toNat := Int.ofNat_inj.mp same
      rw [← accounts.envelope_eq (belongs other held) member (UInt64.toNat_inj.mp seqs)]
      exact held
    · intro held
      exact ⟨belongs source held, batchRow source, rows ▸ List.mem_map_of_mem held, rfl⟩
  refine sameMembers.eq_of_pairwise ?_ ordered increasing
  intro first second _ _ less greater
  exact absurd (less.trans greater) (lt_irrefl _)

theorem Accounts.acknowledge_oldest (accounts : Accounts external enqueued acknowledged tables)
    (waiting : tables.waiting enqueued = envelope :: others) :
    Spool.acknowledge noFaults envelope.batchId envelope.checksum tables =
        (.ok (), { tables with batches := others.map batchRow }) ∧
      { tables with batches := others.map batchRow }.waiting enqueued = others ∧
      ∃ settled, Accounts external enqueued settled
        { tables with batches := others.map batchRow } := by
  have belongs : envelope ∈ enqueued :=
    (mem_waiting.mp (waiting ▸ List.mem_cons_self)).1
  have increasing : (envelope :: others).Pairwise
      fun first second => first.body.seq.toNat < second.body.seq.toNat := by
    rw [← waiting]
    exact accounts.enqueued_lt.filter _
  have rows : tables.batches = batchRow envelope :: others.map batchRow := by
    rw [accounts.batches_eq, waiting, List.map_cons]
  have first : matchesAck envelope.batchId envelope.checksum (batchRow envelope) = true := by
    simp [matchesAck, batchRow]
  have different : ∀ row ∈ others.map batchRow,
      matchesAck envelope.batchId envelope.checksum row = false := by
    intro row member
    obtain ⟨other, later, rfl⟩ := List.mem_map.mp member
    have above := (List.pairwise_cons.mp increasing).1 other later
    rw [Bool.eq_false_iff]
    intro matched
    have same := (accounts.matches_iff belongs (rows ▸ List.mem_cons_of_mem _ member)).mp matched
    have seqs : other.body.seq.toNat = envelope.body.seq.toNat := Int.ofNat_inj.mp same
    omega
  have deleted : tables.batches.filter (matchesAck envelope.batchId envelope.checksum) =
      [batchRow envelope] := by
    rw [rows, List.filter_cons_of_pos first, List.filter_eq_nil_iff.mpr]
    intro row member
    simp [different row member]
  have kept : (tables.batches.filter fun row =>
      !matchesAck envelope.batchId envelope.checksum row) = others.map batchRow := by
    rw [rows, List.filter_cons_of_neg (by simp [first]), List.filter_eq_self]
    intro row member
    simp [different row member]
  have settled := accounts.settle envelope.batchId envelope.checksum
  rw [kept] at settled
  refine ⟨?_, ?_, _, settled⟩
  · unfold Spool.acknowledge
    simp only [runs_noFaults, sqlite_ok, deleted, kept, List.length_singleton, ne_eq,
      not_true_eq_false, ↓reduceIte]
  · exact settled.waiting_eq rfl fun other later =>
      (mem_waiting.mp (waiting ▸ List.mem_cons_of_mem _ later)).1

variable {σ : Type}

theorem Accounts.uploadFrom_waiting (accounts : Accounts external enqueued acknowledged tables)
    {queue later : List BatchEnvelope} (waiting : tables.waiting enqueued = queue ++ later)
    (peer : Peer σ) (count : UInt64) (state : σ) :
    ∃ sent rest ended, Uploaded peer state count queue sent rest ended ∧
      uploadFrom peer noFaults queue count state tables =
        (ended.1, ended.2, { tables with batches := (rest ++ later).map batchRow }) ∧
      ∃ settled, Accounts external enqueued settled
        { tables with batches := (rest ++ later).map batchRow } := by
  induction queue generalizing acknowledged tables count state with
  | nil =>
      refine ⟨[], [], _, .finished (.nil state), ?_⟩
      rw [List.nil_append] at waiting
      rw [uploadFrom, List.nil_append, ← waiting, ← accounts.batches_eq, List.length_nil]
      exact ⟨by simp, acknowledged, accounts⟩
  | cons envelope queue ih =>
      rw [uploadFrom]
      dsimp only
      cases reply : readReply envelope (peer (uploadBody envelope) state).1 with
      | error error =>
          refine ⟨[], envelope :: queue, _, .stopped rfl (.nil state) reply, ?_⟩
          rw [← waiting, ← accounts.batches_eq]
          exact ⟨rfl, acknowledged, accounts⟩
      | ok answered =>
          obtain ⟨deletion, left, settled, later⟩ := accounts.acknowledge_oldest waiting
          rw [deletion]
          obtain ⟨sent, rest, ended, uploaded, result⟩ :=
            ih later left (count + 1) (peer (uploadBody envelope) state).2
          exact ⟨envelope :: sent, rest, ended, uploaded.cons reply, result⟩

theorem Accounts.uploadOnce_waiting (accounts : Accounts external enqueued acknowledged tables)
    (payload : ∀ envelope ∈ enqueued, external.fromSlice (toVec envelope) = some envelope)
    (peer : Peer σ) {limit : Nat} (small : limit < 2 ^ 63) (state : σ) :
    ∃ sent rest ended,
      Uploaded peer state 0 ((tables.waiting enqueued).take limit) sent rest ended ∧
      uploadOnce external peer noFaults limit state tables = (ended.1, ended.2, { tables with
        batches := (rest ++ (tables.waiting enqueued).drop limit).map batchRow }) ∧
      ∃ settled, Accounts external enqueued settled { tables with
        batches := (rest ++ (tables.waiting enqueued).drop limit).map batchRow } := by
  have split : tables.waiting enqueued =
      (tables.waiting enqueued).take limit ++ (tables.waiting enqueued).drop limit :=
    (List.take_append_drop limit _).symm
  obtain ⟨sent, rest, ended, uploaded, result⟩ := accounts.uploadFrom_waiting split peer 0 state
  refine ⟨sent, rest, ended, uploaded, ?_⟩
  rw [uploadOnce, accounts.pending_eq payload noFaults limit small]
  exact result

end Waiting

end FlowObservability
