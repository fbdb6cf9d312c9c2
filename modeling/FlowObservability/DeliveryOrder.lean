import FlowObservability.DeliverySafety
import FlowObservability.SpoolPending

/-!
Delivery is in order. Each upload pass works on a snapshot that is older than the tables;
what it has left of it holds every row still pending below its own rows, so a row that is
acknowledged is the first one pending.
-/

namespace FlowObservability

open Runs Table Transaction

variable {Agent : Type} {external : External}

/-- A snapshot of a spool, or the rest of one: envelopes of the spool in order, with none left
out below another one that is still pending. -/
structure SpoolHistory.Snapshot (history : SpoolHistory) (queue : List BatchEnvelope) : Prop where
  enqueued : ∀ envelope ∈ queue, envelope ∈ history.enqueued
  ordered : queue.Pairwise fun first second => first.body.seq.toNat < second.body.seq.toNat
  closed : ∀ envelope ∈ queue, ∀ row ∈ history.tables.batches,
    row.seq ≤ envelope.body.seq.toNat → ∃ other ∈ queue, row = batchRow other

def SpoolHistory.AckedFirst (history : SpoolHistory) : Prop :=
  ∀ acked ∈ history.acknowledged, ∀ row ∈ history.tables.batches, acked.seq < row.seq

structure SpoolHistory.Follows (before after : SpoolHistory) : Prop where
  enqueued : before.enqueued ⊆ after.enqueued
  rows : ∀ row ∈ after.tables.batches,
    row ∈ before.tables.batches ∨ (before.enqueued.length : Int) ≤ row.seq

section Spools

variable {history next : SpoolHistory} {queue rest : List BatchEnvelope}
  {envelope : BatchEnvelope}

theorem follows_of_subset (enqueued : history.enqueued ⊆ next.enqueued)
    (rows : next.tables.batches ⊆ history.tables.batches) : history.Follows next :=
  ⟨enqueued, fun _ member => .inl (rows member)⟩

theorem open_follows (faults : SpoolFaults) (limits : SpoolLimits) :
    history.Follows (history.step external (.open faults limits)) := by
  obtain ⟨tables, current, opened, same | created, _⟩ := history.step_open faults limits
  · rw [opened, same]
    exact follows_of_subset (List.Subset.refl _) (List.Subset.refl _)
  · rw [opened, created]
    exact follows_of_subset (List.Subset.refl _) (List.Subset.refl _)

theorem SpoolHistory.Accounted.enqueue_follows (accounted : history.Accounted external)
    (faults : SpoolFaults) (args : EnqueueArgs) :
    history.Follows (history.step external (.enqueue faults args)) := by
  rcases history.step_enqueue faults args with same | ⟨_, value, _, _, result, after⟩
  · rw [same]
    exact follows_of_subset (List.Subset.refl _) (List.Subset.refl _)
  · rw [after]
    obtain ⟨fresh, _, stored⟩ := accounted.enqueue_ok result
    refine ⟨List.subset_append_left _ _, ?_⟩
    intro row member
    rcases List.mem_append.mp (stored.batches_subset member) with old | new
    · exact .inl old
    · rw [List.mem_singleton.mp new]
      exact .inr (Int.ofNat_le.mpr fresh.ge)

theorem acknowledged_step_enqueue (faults : SpoolFaults) (args : EnqueueArgs) :
    (history.step external (.enqueue faults args)).acknowledged = history.acknowledged := by
  rcases history.step_enqueue faults args with same | ⟨_, _, _, _, _, after⟩
  · rw [same]
  · rw [after]

theorem acknowledged_step_open (faults : SpoolFaults) (limits : SpoolLimits) :
    (history.step external (.open faults limits)).acknowledged = history.acknowledged := by
  obtain ⟨tables, current, opened, _⟩ := history.step_open faults limits
  rw [opened]

theorem SpoolHistory.Snapshot.later (snapshot : history.Snapshot queue)
    (accounted : history.Accounted external) (follows : history.Follows next) :
    next.Snapshot queue := by
  refine ⟨fun source member => follows.enqueued (snapshot.enqueued source member),
    snapshot.ordered, ?_⟩
  intro source member row stored below
  rcases follows.rows row stored with old | new
  · exact snapshot.closed source member row old below
  · have bound := accounted.accounts.seq_lt (snapshot.enqueued source member)
    omega

theorem SpoolHistory.AckedFirst.later (first : history.AckedFirst)
    (accounted : history.Accounted external) (follows : history.Follows next)
    (same : next.acknowledged = history.acknowledged) : next.AckedFirst := by
  intro acked settled row stored
  rw [same] at settled
  rcases follows.rows row stored with old | new
  · exact first acked settled row old
  · have bound := accounted.accounts.number_lt
      (List.mem_append_right _ (List.mem_map_of_mem settled))
    omega

theorem SpoolHistory.Accounted.pending_snapshot (accounted : history.Accounted external)
    (payload : ∀ source ∈ history.enqueued, external.fromSlice (toVec source) = some source)
    {faults : SpoolFaults} {limit : Nat}
    (result : Spool.pending external faults limit history.tables = .ok queue) :
    history.Snapshot queue := by
  have small : limit < 2 ^ 63 := by
    by_contra large
    rw [Spool.pending, if_pos (Nat.le_of_not_lt large)] at result
    cases result
  rw [accounted.accounts.pending_eq payload faults limit small] at result
  obtain ⟨_, _, result⟩ := bind_ok result
  have read := pure_ok result
  subst read
  have ordered : (history.tables.waiting history.enqueued).Pairwise
      fun first second => first.body.seq.toNat < second.body.seq.toNat :=
    accounted.accounts.enqueued_lt.filter _
  refine ⟨fun source member => (mem_waiting.mp (List.mem_of_mem_take member)).1,
    ordered.sublist (List.take_sublist limit _), ?_⟩
  intro source member row stored below
  rw [accounted.accounts.batches_eq] at stored
  obtain ⟨other, waits, rfl⟩ := List.mem_map.mp stored
  refine ⟨other, ?_, rfl⟩
  rw [← List.take_append_drop limit (history.tables.waiting history.enqueued)] at ordered waits
  rcases List.mem_append.mp waits with taken | dropped
  · exact taken
  · have greater := (List.pairwise_append.mp ordered).2.2 source member other dropped
    simp only [batchRow] at below
    omega

theorem SpoolHistory.Snapshot.tail (snapshot : history.Snapshot (envelope :: rest))
    (gone : ∀ row ∈ history.tables.batches, envelope.body.seq.toNat < row.seq) :
    history.Snapshot rest := by
  refine ⟨fun source member => snapshot.enqueued source (List.mem_cons_of_mem _ member),
    snapshot.ordered.of_cons, ?_⟩
  intro source member row stored below
  obtain ⟨other, belongs, rfl⟩ :=
    snapshot.closed source (List.mem_cons_of_mem _ member) row stored below
  rcases List.mem_cons.mp belongs with rfl | later
  · exact absurd (gone _ stored) (lt_irrefl _)
  · exact ⟨other, later, rfl⟩

theorem SpoolHistory.Accounted.acknowledge_enqueued (accounted : history.Accounted external)
    (belongs : envelope ∈ history.enqueued) (faults : SpoolFaults) :
    (history.acknowledge faults envelope.batchId envelope.checksum = history ∧
      ∃ error, (Spool.acknowledge faults envelope.batchId envelope.checksum
        history.tables).1 = .error error) ∨
      (history.acknowledge faults envelope.batchId envelope.checksum).acknowledged =
          history.acknowledged ++ [batchRow envelope] ∧
        ∀ row ∈ (history.acknowledge faults envelope.batchId
            envelope.checksum).tables.batches,
          row ∈ history.tables.batches ∧ row.seq ≠ envelope.body.seq.toNat := by
  rcases accounted.acknowledge_cases faults envelope.batchId envelope.checksum with
    failed | ⟨single, settled⟩
  · exact .inl failed
  · right
    rw [settled]
    obtain ⟨deleted, only⟩ := List.length_eq_one_iff.mp single
    obtain ⟨stored, matched⟩ := List.mem_filter.mp (only ▸ List.mem_singleton_self deleted)
    have same := (accounted.accounts.matches_iff belongs stored).mp matched
    rw [accounted.accounts.row_of_seq stored belongs same] at only
    refine ⟨by simp only [only], ?_⟩
    intro row kept
    obtain ⟨held, unmatched⟩ := List.mem_filter.mp kept
    refine ⟨held, fun same => ?_⟩
    rw [(accounted.accounts.matches_iff belongs held).mpr same] at unmatched
    cases unmatched

theorem SpoolHistory.Snapshot.acknowledge (snapshot : history.Snapshot (envelope :: rest))
    (accounted : history.Accounted external) (faults : SpoolFaults) :
    (history.acknowledge faults envelope.batchId envelope.checksum = history ∧
      ∃ error, (Spool.acknowledge faults envelope.batchId envelope.checksum
        history.tables).1 = .error error) ∨
      (history.acknowledge faults envelope.batchId envelope.checksum).acknowledged =
          history.acknowledged ++ [batchRow envelope] ∧
        ∀ row ∈ (history.acknowledge faults envelope.batchId
            envelope.checksum).tables.batches,
          row ∈ history.tables.batches ∧ envelope.body.seq.toNat < row.seq := by
  have belongs := snapshot.enqueued envelope List.mem_cons_self
  rcases accounted.acknowledge_enqueued belongs faults with failed | ⟨settled, others⟩
  · exact .inl failed
  · refine .inr ⟨settled, fun row kept => ?_⟩
    obtain ⟨stored, different⟩ := others row kept
    refine ⟨stored, ?_⟩
    by_contra below
    obtain ⟨other, member, rfl⟩ :=
      snapshot.closed envelope List.mem_cons_self row stored (by omega)
    rcases List.mem_cons.mp member with rfl | later
    · exact different rfl
    · have greater := (List.pairwise_cons.mp snapshot.ordered).1 other later
      simp only [batchRow] at below
      omega

end Spools

namespace System

/-- Every pass has a snapshot left, and the rows acknowledged come before those pending. -/
structure Ordered (external : External) (system : System Agent) : Prop where
  accounted : ∀ agent, (system.spools agent).Accounted external
  first : ∀ agent, (system.spools agent).AckedFirst
  passes : ∀ pass state, system.passes pass = some state →
    (system.spools state.agent).Snapshot state.queue

def ReadsBack (external : External) (system : System Agent) : Prop :=
  ∀ envelope, system.Enqueued envelope → external.fromSlice (toVec envelope) = some envelope

section Steps

variable {system next : System Agent}

theorem ReadsBack.earlier (readsBack : next.ReadsBack external) (grows : system.Grows next) :
    system.ReadsBack external :=
  fun envelope enqueued => readsBack envelope (enqueued.later grows)

theorem Ordered.withPasses (ordered : system.Ordered external)
    {passes : Nat → Option (UploadPass Agent)}
    (snapshots : ∀ pass state, passes pass = some state →
      (system.spools state.agent).Snapshot state.queue) :
    { system with passes }.Ordered external :=
  ⟨ordered.accounted, ordered.first, snapshots⟩

theorem Ordered.setPass (ordered : system.Ordered external) (pass : Nat)
    {state : Option (UploadPass Agent)}
    (snapshot : ∀ value, state = some value →
      (system.spools value.agent).Snapshot value.queue) :
    (system.setPass pass state).Ordered external := by
  apply ordered.withPasses
  intro other value found
  by_cases same : other = pass
  · subst same
    exact snapshot value (by simpa using found)
  · exact ordered.passes other value (by simpa [same] using found)

theorem Ordered.congr (ordered : system.Ordered external) (spools : next.spools = system.spools)
    (passes : next.passes = system.passes) : next.Ordered external := by
  constructor
  · rw [spools]
    exact ordered.accounted
  · rw [spools]
    exact ordered.first
  · rw [spools, passes]
    exact ordered.passes

variable [DecidableEq Agent]

theorem Ordered.setSpool (ordered : system.Ordered external) {agent : Agent}
    {history : SpoolHistory} (accounted : history.Accounted external)
    (first : history.AckedFirst) (follows : (system.spools agent).Follows history) :
    (system.setSpool agent history).Ordered external := by
  constructor
  · intro other
    by_cases same : other = agent
    · subst same
      simpa [System.setSpool] using accounted
    · simpa [System.setSpool, same] using ordered.accounted other
  · intro other
    by_cases same : other = agent
    · subst same
      simpa [System.setSpool] using first
    · simpa [System.setSpool, same] using ordered.first other
  · intro pass state found
    have snapshot := ordered.passes pass state found
    by_cases same : state.agent = agent
    · subst same
      simpa [System.setSpool] using snapshot.later (ordered.accounted _) follows
    · simpa [System.setSpool, same] using snapshot

omit [DecidableEq Agent] in
theorem Ordered.startUpload (ordered : system.Ordered external)
    (readsBack : system.ReadsBack external) (pass : Nat) (agent : Agent) (faults : SpoolFaults)
    (limit : Nat) : (system.startUpload external pass agent faults limit).Ordered external := by
  unfold System.startUpload
  split
  · exact ordered
  · split
    · exact ordered
    · rename_i queue pending
      apply ordered.setPass
      rintro _ ⟨rfl⟩
      exact (ordered.accounted agent).pending_snapshot
        (fun source enqueued => readsBack source ⟨agent, enqueued⟩) pending

omit [DecidableEq Agent] in
theorem Ordered.post (ordered : system.Ordered external) (pass : Nat) :
    (system.post pass).Ordered external := by
  unfold System.post
  split
  · rename_i found
    have snapshot := ordered.passes pass _ found
    refine (ordered.setPass pass ?_).congr rfl rfl
    rintro _ ⟨rfl⟩
    exact snapshot
  · exact ordered

omit [DecidableEq Agent] in
theorem Ordered.receive (ordered : system.Ordered external) (pass response : Nat) :
    (system.receive pass response).Ordered external := by
  unfold System.receive
  split
  · rename_i found _
    have snapshot := ordered.passes pass _ found
    split
    · split
      · apply ordered.setPass
        rintro _ ⟨rfl⟩
        exact snapshot
      · exact ordered.setPass pass (by simp)
    · exact ordered
  · exact ordered

theorem Ordered.acknowledge (ordered : system.Ordered external) (pass : Nat)
    (faults : SpoolFaults) : (system.acknowledge pass faults).Ordered external := by
  unfold System.acknowledge
  split
  · rename_i agent envelope rest acknowledged found
    have before := ordered.accounted agent
    have after := before.acknowledge faults envelope.batchId envelope.checksum
    have snapshot : (system.spools agent).Snapshot (envelope :: rest) := ordered.passes pass _ found
    rcases snapshot.acknowledge before faults with ⟨same, error, failed⟩ | ⟨settled, rows⟩
    · simp only [same, failed]
      have unchanged := ordered.setSpool before (ordered.first agent)
        (follows_of_subset (List.Subset.refl _) (List.Subset.refl _))
      exact (unchanged.setPass pass (by simp)).congr rfl rfl
    · have kept : (system.spools agent).enqueued ⊆ ((system.spools agent).acknowledge faults
          envelope.batchId envelope.checksum).enqueued := by
        rw [SpoolHistory.enqueued_acknowledge]
        exact List.Subset.refl _
      have follows := follows_of_subset kept fun row kept => (rows row kept).1
      have first : ((system.spools agent).acknowledge faults envelope.batchId
          envelope.checksum).AckedFirst := by
        intro acked member row kept
        rw [settled] at member
        rcases List.mem_append.mp member with old | new
        · exact ordered.first agent acked old row (rows row kept).1
        · rw [List.mem_singleton.mp new]
          exact (rows row kept).2
      have remaining := (snapshot.later before follows).tail fun row kept => (rows row kept).2
      refine ((ordered.setSpool after first follows).setPass pass ?_).congr rfl rfl
      intro value running
      split at running
      · cases running
        simpa [System.setSpool] using remaining
      · cases running
  · exact ordered

theorem Ordered.crash (ordered : system.Ordered external) (agent : Agent) :
    (system.crash agent).Ordered external := by
  have closed : { system.spools agent with limits := none : SpoolHistory }.Accounted external :=
    ⟨(ordered.accounted agent).accounts, (ordered.accounted agent).counted⟩
  have stopped := ordered.setSpool closed (ordered.first agent)
    (follows_of_subset (List.Subset.refl _) (List.Subset.refl _))
  apply stopped.withPasses
  intro pass state found
  obtain ⟨running, _⟩ := Option.filter_eq_some_iff.mp found
  exact stopped.passes pass state running

theorem Ordered.step (ordered : system.Ordered external) (action : Action Agent)
    (readsBack : (system.step external action).ReadsBack external) :
    (system.step external action).Ordered external := by
  have before := readsBack.earlier (grows_step action)
  cases action with
  | openSpool agent faults limits =>
      have accounted := ordered.accounted agent
      have follows : (system.spools agent).Follows
          ((system.spools agent).step external (.open faults limits)) := open_follows faults limits
      have first := (ordered.first agent).later accounted follows
        (acknowledged_step_open faults limits)
      exact ordered.setSpool (accounted.step _) first follows
  | enqueue agent faults args =>
      have accounted := ordered.accounted agent
      have follows := accounted.enqueue_follows faults args
      have first := (ordered.first agent).later accounted follows
        (acknowledged_step_enqueue faults args)
      exact ordered.setSpool (accounted.step _) first follows
  | startUpload pass agent faults limit => exact ordered.startUpload before pass agent faults limit
  | post pass => exact ordered.post pass
  | deliver request faults limits clock =>
      simp only [System.step, System.deliver]
      split
      · exact ordered
      · exact ordered.congr rfl rfl
  | receive pass response => exact ordered.receive pass response
  | acknowledge pass faults => exact ordered.acknowledge pass faults
  | abandon pass => exact ordered.setPass pass (by simp)
  | crash agent => exact ordered.crash agent

omit [DecidableEq Agent] in
theorem ordered_initial : ({} : System Agent).Ordered external where
  accounted agent := ⟨accounts_initial external, rfl⟩
  first agent := by simp [SpoolHistory.AckedFirst]
  passes := by simp

theorem run_ordered {actions : List (Action Agent)}
    (readsBack : (System.run external actions).ReadsBack external) :
    (System.run external actions).Ordered external :=
  run_invariant_under ordered_initial (fun _ action later => later.earlier (grows_step action))
    (fun _ action later ordered => ordered.step action later) readsBack

end Steps

end System

/-- In every run of the protocol and for every spool: each number acknowledged is smaller than
each number pending, and below the numbers pending every number given out is that of a row
acknowledged or of a gap. -/
theorem delivered_in_order [DecidableEq Agent] (external : External)
    (actions : List (Action Agent))
    (readsBack : (System.run external actions).ReadsBack external) (agent : Agent) :
    (∀ acked ∈ ((System.run external actions).spools agent).acknowledged,
      ∀ row ∈ ((System.run external actions).spools agent).tables.batches, acked.seq < row.seq) ∧
      ∀ number : Nat, number < ((System.run external actions).spools agent).enqueued.length →
        (∀ row ∈ ((System.run external actions).spools agent).tables.batches,
          (number : Int) < row.seq) →
        (∃ acked ∈ ((System.run external actions).spools agent).acknowledged,
          acked.seq = number) ∨
          ∃ gap ∈ ((System.run external actions).spools agent).tables.gaps, gap.seq = number := by
  have ordered := System.run_ordered readsBack
  refine ⟨ordered.first agent, ?_⟩
  intro number given below
  have listed : (number : Int) ∈ sequenceNumbers
      ((System.run external actions).spools agent).enqueued.length :=
    List.mem_map_of_mem (List.mem_range.mpr given)
  have kept := (ordered.accounted agent).accounts.partition.mem_iff.mpr listed
  simp only [List.mem_append, List.mem_map] at kept
  rcases kept with (⟨row, stored, same⟩ | ⟨gap, recorded, same⟩) | ⟨acked, settled, same⟩
  · have greater := below row stored
    omega
  · exact .inr ⟨gap, recorded, same⟩
  · exact .inl ⟨acked, settled, same⟩

theorem delivered_in_order_repeatedDelivery :
    (∀ acked ∈ ((System.run uploadedExternal repeatedDelivery).spools 0).acknowledged,
      ∀ row ∈ ((System.run uploadedExternal repeatedDelivery).spools 0).tables.batches,
        acked.seq < row.seq) ∧
      ((∃ acked ∈ ((System.run uploadedExternal repeatedDelivery).spools 0).acknowledged,
        acked.seq = (0 : Nat)) ∨
        ∃ gap ∈ ((System.run uploadedExternal repeatedDelivery).spools 0).tables.gaps,
          gap.seq = (0 : Nat)) := by
  obtain ⟨first, holeless⟩ := delivered_in_order uploadedExternal repeatedDelivery
    repeatedDelivery_trusted.payload 0
  exact ⟨first, holeless 0 (by decide +kernel) (by decide +kernel)⟩

end FlowObservability
