import FlowObservability.FleetPackets
import FlowObservability.Routes

/-!
From packets to answers through the whole fleet: what the control plane answers about a place never
counts a packet twice, and counts every packet once all is delivered.
-/

namespace FlowObservability

open Runs Table Transaction

/-! Once all is delivered. -/

/-- A capture has returned without an error; a synthetic run keeps nothing back. -/
def Program.Returned : Program → Prop
  | .capture _ _ run => run.result = some (.ok ())
  | .synthetic _ => True

def Fleet.Expired {Agent : Type} [DecidableEq Agent] (external : External)
    (actions : List (FleetAction Agent)) (envelope : BatchEnvelope) : Prop :=
  ∃ before request faults limits now,
    before ++ [.network (.deliver request faults limits (some now))] <+: actions ∧
    request < (Fleet.run external before).system.requests.length ∧
    (Fleet.run external before).system.control.Holds envelope ∧
    envelope.body.createdAt.toNat < controlCutoff now limits.maxAgeSeconds

theorem Fleet.expired_of_parts {Agent : Type} [DecidableEq Agent] {external : External}
    {actions : List (FleetAction Agent)} {parts : List (List (Action Agent))}
    (matched : List.Forall₂ FleetAction.Becomes actions parts)
    (same : ∀ count, (Fleet.run external (actions.take count)).system =
      System.run external (parts.take count).flatten) {envelope : BatchEnvelope}
    (expired : System.Expired external parts.flatten envelope) :
    Fleet.Expired external actions envelope := by
  obtain ⟨before, request, faults, limits, now, within, sent, held, tooOld⟩ := expired
  obtain ⟨earlier, action, part, own, listed, becomes, inPart, split⟩ :=
    prefix_of_parts matched within
  have member : .deliver request faults limits (some now) ∈ part := inPart.subset (by simp)
  have taken : actions.take earlier.length = earlier :=
    (List.prefix_iff_eq_take.mp ((List.prefix_append _ _).trans listed)).symm
  cases action with
  | network move =>
      rw [FleetAction.Becomes] at becomes
      have single : part = [move] := by
        by_cases enqueues : move.enqueues
        · simp [becomes, enqueues] at member
        · simpa [enqueues] using becomes
      subst single
      cases List.mem_singleton.mp member
      have first : own = [] := by
        have short := inPart.length_le
        rw [List.length_append, List.length_singleton] at short
        exact List.length_eq_zero_iff.mp (by simpa using short)
      rw [first, List.append_nil] at split
      rw [split, ← same, taken] at sent held
      exact ⟨earlier, request, faults, limits, now, listed, sent, held, tooOld⟩
  | capture => simpa [Action.enqueues] using becomes _ member
  | synthetic => simpa [Action.enqueues] using becomes _ member
  | round => simpa [Action.enqueues] using becomes _ member
  | kill => simpa [Action.enqueues] using becomes _ member

/-- The programs of a node run at one agent and have returned; nothing waits in its spool or was
lost there, and no ingest was too late for its batches. -/
structure Fleet.Settled {Agent : Type} [DecidableEq Agent] (external : External)
    (actions : List (FleetAction Agent)) (fleet : Fleet Agent) (node : String) : Prop where
  oneAgent : ∀ first ∈ fleet.programs, ∀ second ∈ fleet.programs,
    first.2.node = node → second.2.node = node → first.1 = second.1
  returned : ∀ entry ∈ fleet.programs, entry.2.node = node → entry.2.Returned
  pending : ∀ entry ∈ fleet.programs, entry.2.node = node → (fleet.tables entry.1).batches = []
  gaps : ∀ entry ∈ fleet.programs, entry.2.node = node → (fleet.tables entry.1).gaps = []
  recent : ∀ envelope, fleet.system.Enqueued envelope → envelope.body.nodeId = node →
    ¬Fleet.Expired external actions envelope

section Delivered

variable {Agent : Type} [DecidableEq Agent] {external : External} {fleet : Fleet Agent}
  {actions : List (FleetAction Agent)} {node capturePoint : String} {selected : UInt64 → Bool}
  {column : Counters → UInt64} {weight : PacketMeta → UInt64}

theorem Fleet.mem_enqueued (attributed : fleet.Attributed) {agent : Agent}
    {envelope : BatchEnvelope} : envelope ∈ (fleet.system.spools agent).enqueued ↔
      ∃ program, (agent, program) ∈ fleet.programs ∧ envelope ∈ program.enqueued := by
  rw [(attributed.enqueued agent).mem_iff, Fleet.enqueuedAt, List.mem_flatMap]
  constructor
  · rintro ⟨⟨other, program⟩, member, belongs⟩
    obtain ⟨started, here⟩ := List.mem_filter.mp member
    obtain rfl : other = agent := by simpa using here
    exact ⟨program, started, belongs⟩
  · rintro ⟨program, started, belongs⟩
    exact ⟨(agent, program), List.mem_filter.mpr ⟨started, by simp⟩, belongs⟩

def Fleet.enqueuedBy (fleet : Fleet Agent) (node : String) : List BatchEnvelope :=
  (fleet.programs.filter fun entry => entry.2.node == node).flatMap fun entry => entry.2.enqueued

theorem Fleet.enqueuedBy_nodup (attributed : fleet.Attributed) (standing : fleet.Standing external)
    (oneAgent : ∀ first ∈ fleet.programs, ∀ second ∈ fleet.programs,
      first.2.node = node → second.2.node = node → first.1 = second.1) :
    (fleet.enqueuedBy node).Nodup := by
  cases found : fleet.programs.filter fun entry => entry.2.node == node with
  | nil => simp [Fleet.enqueuedBy, found]
  | cons first rest =>
      have started : first ∈ fleet.programs.filter fun entry => entry.2.node == node := by
        simp [found]
      obtain ⟨belongs, own⟩ := List.mem_filter.mp started
      have part : (fleet.programs.filter fun entry => entry.2.node == node).Sublist
          (fleet.programs.filter fun entry => entry.1 = first.1) := by
        have same : fleet.programs.filter (fun entry => entry.2.node == node) =
            (fleet.programs.filter fun entry => entry.1 = first.1).filter
              fun entry => entry.2.node == node := by
          rw [List.filter_filter]
          apply List.filter_congr
          intro entry member
          by_cases node : entry.2.node = node
          · simp [node, oneAgent entry member first belongs node (by simpa using own)]
          · simp [node]
        rw [same]
        exact List.filter_sublist
      have distinct : ((fleet.system.spools first.1).enqueued).Nodup := by
        have numbers : ((fleet.system.spools first.1).enqueued.map (·.body.seq.toNat)).Nodup := by
          rw [(standing.accounted first.1).accounts.numbered]
          exact List.nodup_range
        exact numbers.of_map
      exact ((attributed.enqueued first.1).nodup_iff.mp distinct).sublist (part.flatMap _)

theorem Fleet.mem_enqueuedBy (attributed : fleet.Attributed) {envelope : BatchEnvelope} :
    envelope ∈ fleet.enqueuedBy node ↔
      fleet.system.Enqueued envelope ∧ envelope.body.nodeId = node := by
  rw [Fleet.enqueuedBy, List.mem_flatMap]
  constructor
  · rintro ⟨entry, member, belongs⟩
    obtain ⟨started, own⟩ := List.mem_filter.mp member
    refine ⟨⟨entry.1, (mem_enqueued attributed).mpr ⟨entry.2, started, belongs⟩⟩, ?_⟩
    exact ((attributed.sound entry started).node belongs).trans (by simpa using own)
  · rintro ⟨⟨agent, enqueued⟩, own⟩
    obtain ⟨program, started, belongs⟩ := (mem_enqueued attributed).mp enqueued
    have same := (attributed.sound _ started).node belongs
    exact ⟨(agent, program), List.mem_filter.mpr ⟨started, by simp [← own, same]⟩, belongs⟩

omit [DecidableEq Agent] in
theorem Fleet.arrivals_node (fleet : Fleet Agent) :
    arrivalsIn selected weight (fleet.arrivals node capturePoint) =
      ((fleet.programs.filter fun entry => entry.2.node == node).map fun entry =>
        arrivalsIn selected weight (entry.2.arrivals node capturePoint)).sum := by
  rw [Fleet.arrivals, arrivalsIn_flatMap]
  induction fleet.programs with
  | nil => rfl
  | cons entry rest ih =>
      by_cases own : entry.2.node = node
      · simp [own, ih]
      · have nothing := Program.arrivals_elsewhere capturePoint own
        have none : arrivalsIn selected weight [] = 0 := rfl
        simp [own, ih, nothing, none]

variable (column weight) (zero : column (0, 0) = 0) (additive : ∀ counters packet,
  column (count counters packet) = column counters + weight packet)
include zero additive

theorem Fleet.stored_le (attributed : fleet.Attributed)
    (captured : capturePoint ≠ syntheticCapturePoint) {stored : List BatchEnvelope}
    (distinct : stored.Nodup) (enqueued : ∀ envelope ∈ stored, fleet.system.Enqueued envelope) :
    placedTotal column node capturePoint selected stored ≤
      arrivalsIn selected weight (fleet.arrivals node capturePoint) := by
  have inside : stored ⊆ fleet.programs.flatMap fun entry => entry.2.enqueued := by
    intro envelope member
    obtain ⟨agent, belongs⟩ := enqueued envelope member
    obtain ⟨program, started, own⟩ := (mem_enqueued attributed).mp belongs
    exact List.mem_flatMap.mpr ⟨(agent, program), started, own⟩
  obtain ⟨part, same, sublist⟩ := List.subperm_of_subset distinct inside
  calc placedTotal column node capturePoint selected stored
      = placedTotal column node capturePoint selected part := ((same.map _).sum_eq).symm
    _ ≤ placedTotal column node capturePoint selected
          (fleet.programs.flatMap fun entry => entry.2.enqueued) :=
        (sublist.map _).sum_le_sum fun _ _ => Nat.zero_le _
    _ = (fleet.programs.map fun entry =>
          placedTotal column node capturePoint selected entry.2.enqueued).sum :=
        placedTotal_flatMap _ _
    _ ≤ (fleet.programs.map fun entry =>
          arrivalsIn selected weight (entry.2.arrivals node capturePoint)).sum :=
        List.sum_le_sum fun entry started =>
          (attributed.sound entry started).placed_le zero additive captured
    _ = arrivalsIn selected weight (fleet.arrivals node capturePoint) :=
        (arrivalsIn_flatMap _ _).symm

theorem Fleet.stored_eq (attributed : fleet.Attributed) (standing : fleet.Standing external)
    (captured : capturePoint ≠ syntheticCapturePoint) (settled : fleet.Settled external actions node)
    {stored : List BatchEnvelope} (distinct : stored.Nodup)
    (enqueued : ∀ envelope ∈ stored, fleet.system.Enqueued envelope)
    (all : ∀ envelope ∈ fleet.enqueuedBy node, envelope ∈ stored)
    (fits : arrivalsIn selected weight (fleet.arrivals node capturePoint) < 2 ^ 64) :
    placedTotal column node capturePoint selected stored =
      arrivalsIn selected weight (fleet.arrivals node capturePoint) := by
  have same : (stored.filter fun envelope => envelope.body.nodeId == node).Perm
      (fleet.enqueuedBy node) := by
    rw [List.perm_ext_iff_of_nodup (distinct.filter _)
      (enqueuedBy_nodup attributed standing settled.oneAgent)]
    intro envelope
    rw [List.mem_filter]
    constructor
    · rintro ⟨held, own⟩
      exact (mem_enqueuedBy attributed).mpr ⟨enqueued envelope held, by simpa using own⟩
    · intro belongs
      exact ⟨all envelope belongs, by simpa using ((mem_enqueuedBy attributed).mp belongs).2⟩
  rw [placedTotal_node, placedTotal, (same.map _).sum_eq]
  change placedTotal column node capturePoint selected (fleet.enqueuedBy node) = _
  rw [Fleet.enqueuedBy, placedTotal_flatMap, arrivals_node] at *
  congr 1
  apply List.map_congr_left
  rintro ⟨agent, program⟩ member
  obtain ⟨started, own⟩ := List.mem_filter.mp member
  have sound := attributed.sound _ started
  have returned := settled.returned _ started (by simpa using own)
  have part : arrivalsIn selected weight (program.arrivals node capturePoint) < 2 ^ 64 :=
    lt_of_le_of_lt (List.single_le_sum (by simp) _ (List.mem_map_of_mem
      (f := fun entry : Agent × Program =>
        arrivalsIn selected weight (entry.2.arrivals node capturePoint)) member)) fits
  cases program with
  | capture config linkType run =>
      exact CaptureRun.Counted.placed_eq zero additive sound returned linkType part
  | synthetic run =>
      exact Nat.le_antisymm (sound.placed_le zero additive captured) (Nat.zero_le _)

end Delivered

/-! What the control plane answers. -/

def Fleet.accepted {Agent : Type} [DecidableEq Agent] (fleet : Fleet Agent)
    (node capturePoint : String) (selected : UInt64 → Bool) : List PacketMeta :=
  ((fleet.arrivals node capturePoint).filter fun arrival => selected arrival.1).map (·.2)

structure Measures (related : Nat → Nat → Prop) (packets bytes : UInt64)
    (accepted : List PacketMeta) : Prop where
  packets : related packets.toNat accepted.length
  bytes : related bytes.toNat (accepted.map (·.wireBytes.toNat)).sum

structure Countable (accepted : List PacketMeta) : Prop where
  packets : accepted.length < 2 ^ 64
  bytes : (accepted.map (·.wireBytes.toNat)).sum < 2 ^ 64

section Answers

variable {Agent : Type} [DecidableEq Agent] {external : External} {fleet : Fleet Agent}
  {actions : List (FleetAction Agent)} {node capturePoint : String} {selected : UInt64 → Bool}

theorem Fleet.accepted_length : (fleet.accepted node capturePoint selected).length =
    arrivalsIn selected (fun _ => 1) (fleet.arrivals node capturePoint) := by
  simp [Fleet.accepted, arrivalsIn]

theorem Fleet.accepted_bytes :
    ((fleet.accepted node capturePoint selected).map (·.wireBytes.toNat)).sum =
      arrivalsIn selected (·.wireBytes) (fleet.arrivals node capturePoint) := by
  simp [Fleet.accepted, arrivalsIn, Function.comp_def]

/-- The control store of a fleet: envelopes of its programs, each once, and among them all those
of a node that has settled. -/
structure Fleet.Stores (external : External) (actions : List (FleetAction Agent))
    (fleet : Fleet Agent) (ledger : Ledger) : Prop where
  control : fleet.system.control = ledger.tables
  distinct : ledger.stored.Nodup
  enqueued : ∀ envelope ∈ ledger.stored, fleet.system.Enqueued envelope
  settled : ∀ node, fleet.Settled external actions node →
    ∀ envelope ∈ fleet.enqueuedBy node, envelope ∈ ledger.stored

theorem Fleet.run_stores (external : External) (actions : List (FleetAction Agent))
    (trusted : (Fleet.run external actions).system.Trusted external) :
    ∃ ledger, (Fleet.run external actions).Stores external actions ledger := by
  obtain ⟨_, parts, matched, same⟩ := Fleet.run_parts external actions
  have attributed := Fleet.run_attributed external actions
  have whole := same actions.length
  rw [List.take_length, matched.length_eq, List.take_length] at whole
  have complete : (Fleet.run external actions).system.Complete external parts.flatten := by
    rw [whole] at trusted ⊢
    exact System.run_complete trusted
  obtain ⟨ledger, control, enqueued, held⟩ := complete.held trusted
  refine ⟨ledger, control, ledger.batchIds.of_map, enqueued, ?_⟩
  intro node settled envelope belongs
  obtain ⟨entry, member, own⟩ := List.mem_flatMap.mp belongs
  obtain ⟨started, here⟩ := List.mem_filter.mp member
  obtain ⟨enqueuedSomewhere, nodeSame⟩ := (Fleet.mem_enqueuedBy attributed).mp belongs
  refine held entry.1 (settled.pending entry started (by simpa using here))
    (settled.gaps entry started (by simpa using here)) envelope
    ((Fleet.mem_enqueued attributed).mpr ⟨entry.2, started, own⟩) fun expired => ?_
  exact settled.recent envelope enqueuedSomewhere nodeSame
    (Fleet.expired_of_parts matched same expired)

variable {ledger : Ledger}

variable (node selected) in
theorem Fleet.Stores.total_le (stores : fleet.Stores external actions ledger)
    (attributed : fleet.Attributed) (captured : capturePoint ≠ syntheticCapturePoint) :
    totalOf (·.packets) ((matchingBuckets ledger.stored node (some capturePoint)).filter
        fun bucket => selected bucket.bucketStart) ≤
      (fleet.accepted node capturePoint selected).length ∧
    totalOf (·.bytes) ((matchingBuckets ledger.stored node (some capturePoint)).filter
        fun bucket => selected bucket.bucketStart) ≤
      ((fleet.accepted node capturePoint selected).map (·.wireBytes.toNat)).sum := by
  rw [matchingBuckets_placed, totalOf_flatMap, totalOf_flatMap, accepted_length, accepted_bytes]
  exact ⟨stored_le Prod.fst (fun _ => 1) rfl (fun _ _ => rfl) attributed
      captured stores.distinct stores.enqueued,
    stored_le Prod.snd (·.wireBytes) rfl (fun _ _ => rfl) attributed
      captured stores.distinct stores.enqueued⟩

variable (selected) in
theorem Fleet.Stores.total_eq (stores : fleet.Stores external actions ledger)
    (attributed : fleet.Attributed) (standing : fleet.Standing external)
    (captured : capturePoint ≠ syntheticCapturePoint) (settled : fleet.Settled external actions node)
    (countable : Countable (fleet.accepted node capturePoint selected)) :
    totalOf (·.packets) ((matchingBuckets ledger.stored node (some capturePoint)).filter
        fun bucket => selected bucket.bucketStart) =
      (fleet.accepted node capturePoint selected).length ∧
    totalOf (·.bytes) ((matchingBuckets ledger.stored node (some capturePoint)).filter
        fun bucket => selected bucket.bucketStart) =
      ((fleet.accepted node capturePoint selected).map (·.wireBytes.toNat)).sum := by
  obtain ⟨packets, bytes⟩ := countable
  rw [accepted_length] at packets
  rw [accepted_bytes] at bytes
  rw [matchingBuckets_placed, totalOf_flatMap, totalOf_flatMap, accepted_length, accepted_bytes]
  have all := stores.settled node settled
  exact ⟨stored_eq Prod.fst (fun _ => 1) rfl (fun _ _ => rfl) attributed standing captured settled
      stores.distinct stores.enqueued all packets,
    stored_eq Prod.snd (·.wireBytes) rfl (fun _ _ => rfl) attributed standing captured settled
      stores.distinct stores.enqueued all bytes⟩

theorem Fleet.Stores.start_accepted (stores : fleet.Stores external actions ledger)
    (attributed : fleet.Attributed) (captured : capturePoint ≠ syntheticCapturePoint)
    {bucket : FlowBucket} (held : bucket ∈ matchingBuckets ledger.stored node (some capturePoint)) :
    fleet.accepted node capturePoint (· == bucket.bucketStart) ≠ [] := by
  have placed : bucket ∈ (matchingBuckets ledger.stored node (some capturePoint)).filter
      fun _ => true := List.mem_filter.mpr ⟨held, rfl⟩
  rw [matchingBuckets_placed (fun _ => true)] at placed
  obtain ⟨envelope, member, here⟩ := List.mem_flatMap.mp placed
  obtain ⟨agent, belongs⟩ := stores.enqueued envelope member
  obtain ⟨program, started, own⟩ := (mem_enqueued attributed).mp belongs
  obtain ⟨arrival, arrived, start⟩ := (attributed.sound _ started).arrival captured own here
  have listed : arrival ∈ fleet.arrivals node capturePoint :=
    List.mem_flatMap.mpr ⟨(agent, program), started, arrived⟩
  exact List.ne_nil_of_mem (List.mem_map_of_mem (List.mem_filter.mpr ⟨listed, by simp [start]⟩))

theorem ExactPoints.window {buckets : List FlowBucket} {lower upper : UInt64}
    {points : List SeriesPoint} (exactly : ExactPoints points (bucketsWithin buckets lower upper))
    {point : SeriesPoint} (member : point ∈ points) :
    ∃ bucket ∈ buckets, bucket.bucketStart = point.bucketStart ∧
      bucketsAt (bucketsWithin buckets lower upper) point.bucketStart =
        buckets.filter fun bucket => bucket.bucketStart == point.bucketStart := by
  obtain ⟨bucket, within, start⟩ := (exactly.starts point.bucketStart).mp ⟨point, member, rfl⟩
  obtain ⟨held, inside⟩ := List.mem_filter.mp within
  refine ⟨bucket, held, start, ?_⟩
  rw [bucketsAt, bucketsWithin, List.filter_filter]
  apply List.filter_congr
  intro other _
  by_cases here : other.bucketStart = point.bucketStart
  · rw [start] at inside
    rw [here, inside]
    simp
  · simp [here]

theorem Fleet.Stores.stats_le (stores : fleet.Stores external actions ledger)
    (attributed : fleet.Attributed) (captured : capturePoint ≠ syntheticCapturePoint)
    {totals : ControlStats}
    (exactly : StatsOf ledger.stored ⟨node, some capturePoint⟩ totals) :
    Measures (· ≤ ·) totals.packets totals.bytes
      (fleet.accepted node capturePoint fun _ => true) := by
  obtain ⟨packets, bytes⟩ := stores.total_le node (fun _ => true) attributed captured
  rw [List.filter_true, ← exactly.packets] at packets
  rw [List.filter_true, ← exactly.bytes] at bytes
  exact ⟨packets, bytes⟩

theorem Fleet.Stores.point_le (stores : fleet.Stores external actions ledger)
    (attributed : fleet.Attributed) (captured : capturePoint ≠ syntheticCapturePoint)
    {lower upper : UInt64} {points : List SeriesPoint}
    (exactly : ExactPoints points (bucketsWithin
      (matchingBuckets ledger.stored node (some capturePoint)) lower upper))
    {point : SeriesPoint} (member : point ∈ points) :
    fleet.accepted node capturePoint (· == point.bucketStart) ≠ [] ∧
      Measures (· ≤ ·) point.packets point.bytes
        (fleet.accepted node capturePoint (· == point.bucketStart)) := by
  obtain ⟨bucket, held, start, all⟩ := exactly.window member
  refine ⟨start ▸ stores.start_accepted attributed captured held, ?_⟩
  obtain ⟨packets, bytes⟩ := stores.total_le node (· == point.bucketStart) attributed captured
  rw [← all, ← exactly.packets point member] at packets
  rw [← all, ← exactly.bytes point member] at bytes
  exact ⟨packets, bytes⟩

end Answers

/-- In every run of the commands of any number of agents, however their rounds, the uploads, the
network and crashes interleave: at a capture point other than the fixture's, no answer counts more
packets or bytes than captures accepted there, and no point is where no packet was accepted; and
once a node has settled its answers count exactly these. -/
theorem fleet_counts_once {Agent : Type} [DecidableEq Agent] (external : External)
    (actions : List (FleetAction Agent))
    (trusted : (Fleet.run external actions).system.Trusted external) (node capturePoint : String)
    (captured : capturePoint ≠ syntheticCapturePoint) :
    let fleet := Fleet.run external actions
    let accepted := fleet.accepted node capturePoint
    (∀ faults totals,
      ControlStore.stats faults node (some capturePoint) fleet.system.control = .ok totals →
        Measures (· ≤ ·) totals.packets totals.bytes (accepted fun _ => true) ∧
        (fleet.Settled external actions node → Countable (accepted fun _ => true) →
          Measures (· = ·) totals.packets totals.bytes (accepted fun _ => true))) ∧
    ∀ faults «from» «to» points, ControlStore.series faults node (some capturePoint) «from» «to»
        fleet.system.control = .ok points →
      (∀ point ∈ points, accepted (· == point.bucketStart) ≠ [] ∧
        Measures (· ≤ ·) point.packets point.bytes (accepted (· == point.bucketStart))) ∧
      (fleet.Settled external actions node → (∀ start, Countable (accepted (· == start))) →
        (∀ point ∈ points,
          Measures (· = ·) point.packets point.bytes (accepted (· == point.bucketStart))) ∧
        ∀ start, «from».getD 0 ≤ start → start ≤ «to».getD 0x7fffffffffffffff →
          accepted (· == start) ≠ [] → ∃ point ∈ points, point.bucketStart = start) := by
  intro fleet accepted
  obtain ⟨ledger, stores⟩ := Fleet.run_stores external actions trusted
  have attributed := Fleet.run_attributed external actions
  have standing := (Fleet.run_parts external actions).1
  have same : fleet.system.control = ledger.tables := stores.control
  rw [same]
  constructor
  · intro faults totals answer
    have exactly : StatsOf ledger.stored ⟨node, some capturePoint⟩ totals := Ledger.statsOf answer
    refine ⟨stores.stats_le attributed captured exactly, fun settled countable => ?_⟩
    obtain ⟨packets, bytes⟩ := stores.total_eq (fun _ => true) attributed standing captured
      settled countable
    rw [List.filter_true, ← exactly.packets] at packets
    rw [List.filter_true, ← exactly.bytes] at bytes
    exact ⟨packets, bytes⟩
  · intro faults «from» «to» points answer
    have exactly := Ledger.pointsOf ⟨node, some capturePoint, «from», «to»⟩ answer
    dsimp only at exactly
    refine ⟨fun point member => stores.point_le attributed captured exactly member,
      fun settled countable => ⟨fun point member => ?_, ?_⟩⟩
    · obtain ⟨_, _, _, all⟩ := exactly.window member
      obtain ⟨packets, bytes⟩ := stores.total_eq (· == point.bucketStart) attributed
        standing captured settled (countable point.bucketStart)
      rw [← all, ← exactly.packets point member] at packets
      rw [← all, ← exactly.bytes point member] at bytes
      exact ⟨packets, bytes⟩
    · intro start lower upper arrived
      obtain ⟨packets, _⟩ := stores.total_eq (· == start) attributed standing captured
        settled (countable start)
      have positive := List.length_pos_iff.mpr arrived
      have found : (matchingBuckets ledger.stored node (some capturePoint)).filter
          (fun bucket => bucket.bucketStart == start) ≠ [] := by
        intro nothing
        have zero : (fleet.accepted node capturePoint (· == start)).length = 0 := by
          rw [← packets, nothing]
          rfl
        exact absurd zero (Nat.ne_of_gt positive)
      obtain ⟨bucket, member⟩ := List.exists_mem_of_ne_nil _ found
      obtain ⟨held, here⟩ := List.mem_filter.mp member
      have begins : bucket.bucketStart = start := by simpa using here
      refine (exactly.starts start).mpr ⟨bucket, List.mem_filter.mpr ⟨held, ?_⟩, begins⟩
      simp [begins, lower, upper]

/-! The packet of one capture, drained in its second round and delivered by one pass. -/

def pingEnvelope : BatchEnvelope := pingArgs.envelope pingExternal 0

def fleetExternal : External where
  blake3 := pingExternal.blake3
  fromSlice text :=
    if text = toVec pingEnvelope ∨ text = uploadBody pingEnvelope then some pingEnvelope else none
  sliceError := pingExternal.sliceError

def deliveredPing : List (FleetAction (Fin 1)) := [
  .capture (Fin.last 0) pingConfig (.ok LINKTYPE_RAW) noFaults,
  .round 0 { next := .ok { data := ping, tvSec := 11, len := 60 }, clock := some 12 },
  .round 0 { next := .ok { data := [], tvSec := 12, len := 0 }, clock := some 25 },
  .network (.startUpload 0 (Fin.last 0) noFaults 10),
  .network (.post 0),
  .network (.deliver 0 noFaults {} (some 100)),
  .network (.receive 0 0),
  .network (.acknowledge 0 noFaults)]

instance (program : Program) : Decidable program.Returned :=
  match program with
  | .capture _ _ run => inferInstanceAs (Decidable (run.result = some (.ok ())))
  | .synthetic _ => inferInstanceAs (Decidable True)

/-- The run evaluated, in one theorem so that it is evaluated once. -/
theorem deliveredPing_run :
    (∀ agent : Fin 1, ((Fleet.run fleetExternal deliveredPing).system.spools agent).enqueued =
      [pingEnvelope]) ∧
    (∀ entry ∈ (Fleet.run fleetExternal deliveredPing).programs, entry.2.Returned) ∧
    (∀ agent : Fin 1, ((Fleet.run fleetExternal deliveredPing).tables agent).batches = [] ∧
      ((Fleet.run fleetExternal deliveredPing).tables agent).gaps = []) ∧
    ControlStore.series noFaults "n" (some "p") none none
      (Fleet.run fleetExternal deliveredPing).system.control =
        .ok [{ bucketStart := 10, packets := 1, bytes := 60 }] ∧
    (Fleet.run fleetExternal deliveredPing).arrivals "n" "p" =
      [(10, { timestamp := 11, wireBytes := 60, key := {
        capturePoint := "p"
        direction := .egress
        protocol := .icmp
        sourceIp := .v4 10 0 0 2
        destinationIp := .v4 1 1 1 1
        sourcePort := none
        destinationPort := none } })] := by
  decide +kernel

theorem deliveredPing_only {envelope : BatchEnvelope}
    (enqueued : (Fleet.run fleetExternal deliveredPing).system.Enqueued envelope) :
    envelope = pingEnvelope := by
  obtain ⟨agent, member⟩ := enqueued
  rw [deliveredPing_run.1 agent] at member
  exact List.mem_singleton.mp member

theorem deliveredPing_trusted :
    (Fleet.run fleetExternal deliveredPing).system.Trusted fleetExternal := by
  refine ⟨?_, ?_, ?_⟩
  · intro first second firstMem secondMem different
    rw [deliveredPing_only firstMem, deliveredPing_only secondMem] at different
    exact absurd rfl different
  · intro envelope member
    rw [deliveredPing_only member]
    simp [fleetExternal]
  · intro envelope member
    rw [deliveredPing_only member]
    simp [fleetExternal]

theorem deliveredPing_settled :
    (Fleet.run fleetExternal deliveredPing).Settled fleetExternal deliveredPing "n" := by
  obtain ⟨_, returned, spools, _, _⟩ := deliveredPing_run
  refine ⟨fun first _ second _ _ _ => Subsingleton.elim _ _, ?_, ?_, ?_, ?_⟩
  · exact fun entry member _ => returned entry member
  · exact fun entry _ _ => (spools entry.1).1
  · exact fun entry _ _ => (spools entry.1).2
  · intro envelope _ _ expired
    obtain ⟨before, request, faults, limits, now, within, _, _, tooOld⟩ := expired
    have member : .network (.deliver request faults limits (some now)) ∈ deliveredPing :=
      within.subset (by simp)
    simp only [deliveredPing, List.mem_cons, List.not_mem_nil, or_false, reduceCtorEq, false_or,
      FleetAction.network.injEq, Action.deliver.injEq, Option.some.injEq] at member
    obtain ⟨_, _, rfl, rfl⟩ := member
    simp [controlCutoff] at tooOld

theorem fleet_counts_once_deliveredPing :
    Measures (· = ·) 1 60 ((Fleet.run fleetExternal deliveredPing).accepted "n" "p" (· == 10)) := by
  obtain ⟨_, _, _, answer, accepted⟩ := deliveredPing_run
  obtain ⟨_, series⟩ := fleet_counts_once fleetExternal deliveredPing deliveredPing_trusted "n" "p"
    (by decide)
  refine ((series noFaults none none _ answer).2 deliveredPing_settled fun start => ?_).1
    { bucketStart := 10, packets := 1, bytes := 60 } List.mem_cons_self
  constructor
  · rw [Fleet.accepted, accepted]
    by_cases here : 10 = start
    · simp [here]
    · simp [here]
  · rw [Fleet.accepted, accepted]
    by_cases here : 10 = start
    · simp [here]
    · simp [here]

end FlowObservability
