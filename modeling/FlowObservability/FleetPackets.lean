import FlowObservability.ControlSums
import FlowObservability.FleetRefinement

/-!
The packets of the fleet: those that captures have accepted at a place, and what the buckets of
their envelopes count of them in any state.
-/

namespace FlowObservability

open Runs Table Transaction Words

/-! Counters that may wrap around count at most the packets. -/

section Sums

variable {column : Counters → UInt64} {weight : PacketMeta → UInt64} {bucketSeconds : UInt64}
  (zero : column (0, 0) = 0) (additive : ∀ counters packet,
    column (count counters packet) = column counters + weight packet)
include zero additive

theorem tallied_sum_le (selected : FlowSlot → Bool) (packets : List PacketMeta) :
    (((tallied bucketSeconds packets).filter fun bucket => selected bucket.slot).map
        fun bucket => (column (bucket.packets, bucket.bytes)).toNat).sum ≤
      ((packets.filter fun packet => selected (slotOf bucketSeconds packet)).map
        fun packet => (weight packet).toNat).sum := by
  rw [tallied_select, ← groupBy_sum _ (slotOf bucketSeconds), tallied, List.map_map]
  apply List.sum_le_sum
  rintro ⟨slot, group⟩ _
  have counted := foldl_add_le weight group 0
  simp only [Function.comp_apply, column_foldl additive, zero]
  simpa using counted

end Sums

/-! The buckets of a place in one envelope. -/

def BatchEnvelope.placed (envelope : BatchEnvelope) (node capturePoint : String)
    (selected : UInt64 → Bool) : List FlowBucket :=
  (matchingBuckets [envelope] node (some capturePoint)).filter fun bucket =>
    selected bucket.bucketStart

section Placed

variable {envelope : BatchEnvelope} {node capturePoint : String} {selected : UInt64 → Bool}

theorem placed_eq : envelope.placed node capturePoint selected =
    if envelope.body.nodeId = node then
      envelope.body.buckets.filter fun bucket =>
        bucket.key.capturePoint == capturePoint && selected bucket.bucketStart
    else [] := by
  have own : envelope.placed node capturePoint selected =
      envelope.body.buckets.filter fun bucket => (envelope.body.nodeId == node &&
        bucket.key.capturePoint == capturePoint) && selected bucket.bucketStart := by
    simp [BatchEnvelope.placed, matchingBuckets, heldBuckets, List.filter_map, Function.comp_def,
      List.filter_filter, Bool.and_comm]
  rw [own]
  by_cases same : envelope.body.nodeId = node
  · simp [same]
  · simp [same]

variable (selected) in
theorem matchingBuckets_placed (envelopes : List BatchEnvelope) :
    (matchingBuckets envelopes node (some capturePoint)).filter
        (fun bucket => selected bucket.bucketStart) =
      envelopes.flatMap fun envelope => envelope.placed node capturePoint selected := by
  induction envelopes with
  | nil => rfl
  | cons envelope rest ih =>
      have split : matchingBuckets (envelope :: rest) node (some capturePoint) =
          matchingBuckets [envelope] node (some capturePoint) ++
            matchingBuckets rest node (some capturePoint) := by
        simp [matchingBuckets, heldBuckets]
      rw [split, List.filter_append, ih, List.flatMap_cons]
      rfl

theorem totalOf_flatMap (field : FlowBucket → UInt64) {α : Type} (items : List α)
    (buckets : α → List FlowBucket) :
    totalOf field (items.flatMap buckets) =
      (items.map fun item => totalOf field (buckets item)).sum := by
  induction items with
  | nil => rfl
  | cons item rest ih =>
      rw [List.flatMap_cons, List.map_cons, List.sum_cons, ← ih]
      simp [totalOf]

end Placed

/-! The packets of a capture, in the batches it has enqueued. -/

def Program.arrivals (node capturePoint : String) : Program → List (UInt64 × PacketMeta)
  | .capture config _ run =>
    if config.nodeId = node ∧ config.capturePoint = capturePoint then
      run.accepted.map fun packet => (bucketOf config.bucketSeconds packet.timestamp, packet)
    else []
  | .synthetic _ => []

def arrivalsIn (selected : UInt64 → Bool) (weight : PacketMeta → UInt64)
    (arrivals : List (UInt64 × PacketMeta)) : Nat :=
  ((arrivals.filter fun arrival => selected arrival.1).map fun arrival =>
    (weight arrival.2).toNat).sum

def weightIn (bucketSeconds : UInt64) (selected : UInt64 → Bool) (weight : PacketMeta → UInt64)
    (packets : List PacketMeta) : Nat :=
  arrivalsIn selected weight
    (packets.map fun packet => (bucketOf bucketSeconds packet.timestamp, packet))

def columnOf (column : Counters → UInt64) (bucket : FlowBucket) : UInt64 :=
  column (bucket.packets, bucket.bytes)

section Weights

variable {selected : UInt64 → Bool} {weight : PacketMeta → UInt64} {bucketSeconds : UInt64}

theorem arrivalsIn_append (first second : List (UInt64 × PacketMeta)) :
    arrivalsIn selected weight (first ++ second) =
      arrivalsIn selected weight first + arrivalsIn selected weight second := by
  simp [arrivalsIn]

theorem arrivalsIn_flatMap {α : Type} (items : List α) (arrivals : α → List (UInt64 × PacketMeta)) :
    arrivalsIn selected weight (items.flatMap arrivals) =
      (items.map fun item => arrivalsIn selected weight (arrivals item)).sum := by
  induction items with
  | nil => rfl
  | cons item rest ih =>
      rw [List.flatMap_cons, arrivalsIn_append, ih, List.map_cons, List.sum_cons]

theorem weightIn_eq (packets : List PacketMeta) :
    weightIn bucketSeconds selected weight packets =
      ((packets.filter fun packet => selected (ofLex (slotOf bucketSeconds packet)).1).map
        fun packet => (weight packet).toNat).sum := by
  simp [weightIn, arrivalsIn, List.filter_map, Function.comp_def, slotOf]

theorem weightIn_split {packets rest : List PacketMeta} {portions : List (List PacketMeta)}
    (same : packets.Perm (portions.flatten ++ rest)) :
    weightIn bucketSeconds selected weight packets =
      (portions.map (weightIn bucketSeconds selected weight)).sum +
        weightIn bucketSeconds selected weight rest := by
  have whole : weightIn bucketSeconds selected weight packets =
      weightIn bucketSeconds selected weight (portions.flatten ++ rest) := by
    rw [weightIn_eq, weightIn_eq]
    exact ((same.filter _).map _).sum_eq
  have flat : weightIn bucketSeconds selected weight portions.flatten =
      (portions.map (weightIn bucketSeconds selected weight)).sum := by
    rw [weightIn, List.map_flatten, ← List.flatMap_def, arrivalsIn_flatMap]
    rfl
  rw [whole, ← flat, weightIn, List.map_append, arrivalsIn_append]
  rfl

end Weights

section Captures

variable {node capturePoint : String} {selected : UInt64 → Bool}
  {column : Counters → UInt64} {weight : PacketMeta → UInt64} {config : CaptureConfig}
  {run : CaptureRun} {rest : List PacketMeta}

theorem CaptureRun.Apportioned.elsewhere (apportioned : run.Apportioned config rest)
    (other : ¬(config.nodeId = node ∧ config.capturePoint = capturePoint))
    {envelope : BatchEnvelope} (member : envelope ∈ run.enqueued) :
    envelope.placed node capturePoint selected = [] := by
  rw [placed_eq]
  split
  · rename_i same
    rw [List.filter_eq_nil_iff]
    intro bucket held matched
    simp only [Bool.and_eq_true, beq_iff_eq] at matched
    obtain ⟨portions, buckets, accepted⟩ := apportioned.batches
    obtain ⟨portion, belongs, equal⟩ := (forall₂_mem buckets).1 envelope member
    obtain ⟨packet, counted, _, key⟩ := mem_tallied (equal ▸ held)
    have inside : packet ∈ run.accepted := accepted.mem_iff.mpr
      (List.mem_append_left _ (List.mem_flatten.mpr ⟨portion, belongs, counted⟩))
    refine other ⟨(apportioned.node envelope member).symm.trans same, ?_⟩
    rw [← apportioned.capturePoint packet inside, key, matched.1]
  · rfl

def portionTotal (column : Counters → UInt64) (bucketSeconds : UInt64) (selected : UInt64 → Bool)
    (portion : List PacketMeta) : Nat :=
  (((tallied bucketSeconds portion).filter fun bucket => selected (ofLex bucket.slot).1).map
    fun bucket => (column (bucket.packets, bucket.bytes)).toNat).sum

theorem portions_placed {bucketSeconds : UInt64} {enqueued : List BatchEnvelope}
    {portions : List (List PacketMeta)}
    (batches : List.Forall₂ (fun envelope portion =>
      envelope.body.buckets = tallied bucketSeconds portion) enqueued portions)
    (owned : ∀ envelope ∈ enqueued, envelope.body.nodeId = node)
    (here : ∀ packet ∈ portions.flatten, packet.key.capturePoint = capturePoint) :
    (enqueued.map fun envelope =>
        totalOf (columnOf column) (envelope.placed node capturePoint selected)).sum =
      (portions.map (portionTotal column bucketSeconds selected)).sum := by
  induction batches with
  | nil => rfl
  | @cons envelope portion enqueued portions buckets _ ih =>
      rw [List.flatten_cons, List.forall_mem_append] at here
      have all : envelope.placed node capturePoint selected =
          (tallied bucketSeconds portion).filter fun bucket =>
            selected (ofLex bucket.slot).1 := by
        rw [placed_eq, if_pos (owned envelope List.mem_cons_self), buckets]
        apply List.filter_congr
        intro bucket member
        obtain ⟨packet, counted, _, key⟩ := mem_tallied member
        have point := here.1 packet counted
        rw [key] at point
        simp [point, FlowBucket.slot]
      rw [List.map_cons, List.map_cons, List.sum_cons, List.sum_cons, all,
        ih (fun other member => owned other (List.mem_cons_of_mem _ member)) here.2]
      rfl

def placedTotal (column : Counters → UInt64) (node capturePoint : String)
    (selected : UInt64 → Bool) (envelopes : List BatchEnvelope) : Nat :=
  (envelopes.map fun envelope =>
    totalOf (columnOf column) (envelope.placed node capturePoint selected)).sum

variable (column selected) in
theorem CaptureRun.Apportioned.total_here (apportioned : run.Apportioned config rest)
    (own : config.nodeId = node ∧ config.capturePoint = capturePoint) :
    ∃ portions : List (List PacketMeta), run.accepted.Perm (portions.flatten ++ rest) ∧
      placedTotal column node capturePoint selected run.enqueued =
        (portions.map (portionTotal column config.bucketSeconds selected)).sum := by
  obtain ⟨portions, buckets, accepted⟩ := apportioned.batches
  refine ⟨portions, accepted, portions_placed buckets ?_ ?_⟩
  · exact fun envelope member => (apportioned.node envelope member).trans own.1
  · exact fun packet member => (apportioned.capturePoint packet
      (accepted.mem_iff.mpr (List.mem_append_left _ member))).trans own.2

variable (column selected weight) in
theorem CaptureRun.Apportioned.total_elsewhere (apportioned : run.Apportioned config rest)
    (other : ¬(config.nodeId = node ∧ config.capturePoint = capturePoint)) (linkType : Int32) :
    placedTotal column node capturePoint selected run.enqueued = 0 ∧
      arrivalsIn selected weight
        ((Program.capture config linkType run).arrivals node capturePoint) = 0 := by
  constructor
  · have nothing : ∀ envelope ∈ run.enqueued,
        totalOf (columnOf column) (envelope.placed node capturePoint selected) = 0 := by
      intro envelope member
      rw [apportioned.elsewhere other member]
      rfl
    rw [placedTotal, List.map_congr_left nothing]
    simp
  · simp [Program.arrivals, other, arrivalsIn]

theorem arrivals_here (own : config.nodeId = node ∧ config.capturePoint = capturePoint)
    (linkType : Int32) :
    arrivalsIn selected weight
        ((Program.capture config linkType run).arrivals node capturePoint) =
      weightIn config.bucketSeconds selected weight run.accepted := by
  rw [Program.arrivals, if_pos own]
  rfl

variable (zero : column (0, 0) = 0) (additive : ∀ counters packet,
  column (count counters packet) = column counters + weight packet)
include zero additive

theorem CaptureRun.Counted.placed_le (counted : run.Counted config) (linkType : Int32) :
    placedTotal column node capturePoint selected run.enqueued ≤
      arrivalsIn selected weight
        ((Program.capture config linkType run).arrivals node capturePoint) := by
  obtain ⟨rest, apportioned, _, _⟩ := counted
  by_cases own : config.nodeId = node ∧ config.capturePoint = capturePoint
  · obtain ⟨portions, accepted, total⟩ := apportioned.total_here selected column own
    rw [total, arrivals_here own, weightIn_split accepted]
    refine le_trans (List.sum_le_sum fun portion _ => ?_) (Nat.le_add_right _ _)
    rw [weightIn_eq]
    exact tallied_sum_le zero additive (fun slot => selected (ofLex slot).1) portion
  · rw [(apportioned.total_elsewhere selected column weight own linkType).1]
    exact Nat.zero_le _

theorem CaptureRun.Counted.placed_eq (counted : run.Counted config)
    (returned : run.result = some (.ok ())) (linkType : Int32)
    (fits : arrivalsIn selected weight
      ((Program.capture config linkType run).arrivals node capturePoint) < 2 ^ 64) :
    placedTotal column node capturePoint selected run.enqueued =
      arrivalsIn selected weight
        ((Program.capture config linkType run).arrivals node capturePoint) := by
  obtain ⟨rest, apportioned, _, empty⟩ := counted
  have none := empty returned
  subst none
  by_cases own : config.nodeId = node ∧ config.capturePoint = capturePoint
  · obtain ⟨portions, accepted, total⟩ := apportioned.total_here selected column own
    have nothing : weightIn config.bucketSeconds selected weight [] = 0 := rfl
    rw [arrivals_here own, weightIn_split accepted, nothing, Nat.add_zero] at fits ⊢
    rw [total]
    congr 1
    apply List.map_congr_left
    intro portion member
    have part : weightIn config.bucketSeconds selected weight portion ≤
        (portions.map (weightIn config.bucketSeconds selected weight)).sum :=
      List.single_le_sum (by simp) _ (List.mem_map_of_mem member)
    rw [weightIn_eq] at part ⊢
    exact tallied_sum_select zero additive (fun slot => selected (ofLex slot).1) portion
      (part.trans_lt fits)
  · obtain ⟨counts, accepts⟩ := apportioned.total_elsewhere selected column weight
      own linkType
    rw [counts, accepts]

end Captures

/-! The fleet: which program enqueued what. -/

/-- What holds of a program in every state: of a capture, that its packets are counted; of a
synthetic run, that its batches are of the fixture. -/
def Program.Sound : Program → Prop
  | .capture config _ run => run.Counted config
  | .synthetic run => ∀ envelope ∈ run.enqueued, envelope.body.nodeId = run.node ∧
    ∀ bucket ∈ envelope.body.buckets, bucket.key.capturePoint = syntheticCapturePoint

def Program.node : Program → String
  | .capture config _ _ => config.nodeId
  | .synthetic run => run.node

namespace Program

theorem Sound.step {program : Program} (sound : program.Sound) (external : External)
    (tables : SpoolTables) (tick : Tick) :
    ((program.withSpool tables).step external tick).Sound := by
  cases program with
  | capture config linkType run =>
      obtain ⟨rest, apportioned, holding, returned⟩ := sound
      have current : ({ run with spool := tables } : CaptureRun).Counted config :=
        ⟨rest, ⟨apportioned.batches, apportioned.node, apportioned.capturePoint⟩, holding, returned⟩
      exact current.step external linkType tick
  | synthetic run =>
      simp only [withSpool, Program.step, SyntheticRun.step]
      split
      · exact sound
      · split
        · split
          · exact sound
          · intro envelope member
            rcases List.mem_append.mp member with old | new
            · exact sound envelope old
            · rw [List.mem_singleton.mp new]
              refine ⟨rfl, fun bucket held => ?_⟩
              rw [List.mem_singleton.mp held]
              rfl
        · exact sound

theorem Sound.node {program : Program} (sound : program.Sound) {envelope : BatchEnvelope}
    (member : envelope ∈ program.enqueued) : envelope.body.nodeId = program.node := by
  cases program with
  | capture config linkType run =>
      obtain ⟨rest, apportioned, _, _⟩ := sound
      exact apportioned.node envelope member
  | synthetic run => exact (sound envelope member).1

end Program

namespace Fleet

variable {Agent : Type} [DecidableEq Agent] {external : External} {fleet next : Fleet Agent}
  {action : FleetAction Agent}

def enqueuedAt (programs : List (Agent × Program)) (agent : Agent) : List BatchEnvelope :=
  (programs.filter fun entry => entry.1 = agent).flatMap fun entry => entry.2.enqueued

/-- Each envelope of a spool is of one program of its agent, and the programs are sound. -/
structure Attributed (fleet : Fleet Agent) : Prop where
  enqueued : ∀ agent, (fleet.system.spools agent).enqueued.Perm (enqueuedAt fleet.programs agent)
  sound : ∀ entry ∈ fleet.programs, entry.2.Sound

variable (external) in
theorem quiet_enqueued (system : System Agent) (schedule : List (Action Agent))
    (quiet : ∀ move ∈ schedule, move.enqueues = false) (agent : Agent) :
    ((Runs.run (System.step external) system schedule).spools agent).enqueued =
      (system.spools agent).enqueued := by
  induction schedule generalizing system with
  | nil => rfl
  | cons move rest ih =>
      rw [run_cons, ih _ fun later member => quiet later (List.mem_cons_of_mem _ member)]
      have silent := quiet move List.mem_cons_self
      have change := System.spoolStep_step external system move agent
      generalize (system.step external move).spools agent = history at change
      cases change with
      | same => rfl
      | @call call made =>
          cases call with
          | «open» faults limits =>
              obtain ⟨tables, current, opened, _⟩ :=
                @SpoolHistory.step_open external (system.spools agent) faults limits
              rw [opened]
          | enqueue faults args =>
              cases move with
              | enqueue other faults args => cases silent
              | _ => simp [Action.spoolCall] at made
          | acknowledge faults batchId checksum =>
              exact absurd made Action.spoolCall_ne_acknowledge
      | acknowledged faults found => rw [SpoolHistory.enqueued_acknowledge]
      | crashed => rfl

theorem Advances.attributed (advances : fleet.Advances external action next)
    (attributed : fleet.Attributed) : next.Attributed := by
  cases advances with
  | quiet schedule system moves programs becomes =>
      constructor
      · intro agent
        rw [programs, system, quiet_enqueued _ _ _ moves]
        exact attributed.enqueued agent
      · rw [programs]
        exact attributed.sound
  | @launched agent program faults spool opened fresh counted system programs command =>
      constructor
      · intro other
        have same := quiet_enqueued external fleet.system
          [.openSpool agent faults program.limits] (by simp [Action.enqueues]) other
        rw [run_cons, run_nil, ← system] at same
        rw [same, programs]
        refine (attributed.enqueued other).trans (List.Perm.of_eq ?_)
        rw [enqueuedAt, enqueuedAt, List.filter_append, List.flatMap_append]
        by_cases here : agent = other
        · simp [here, fresh]
        · simp [here]
      · intro entry member
        rw [programs] at member
        rcases List.mem_append.mp member with old | new
        · exact attributed.sound entry old
        · rw [List.mem_singleton.mp new]
          cases program with
          | capture config linkType run => exact counted config linkType run rfl
          | synthetic run =>
              intro envelope belongs
              have none : run.enqueued = [] := fresh
              simp [none] at belongs
  | @round agent program earlier later tick after stepped found system programs command =>
      obtain ⟨envelopes, enqueued, _, _⟩ :=
        (program.withSpool (fleet.tables agent)).step_advances external tick
      rw [stepped, Program.withSpool_enqueued] at enqueued
      constructor
      · intro other
        have before := attributed.enqueued other
        rw [found] at before
        rw [programs, system]
        by_cases here : agent = other
        · subst here
          have more : (enqueuedAt (earlier ++ (agent, program) :: later) agent ++ envelopes).Perm
              (enqueuedAt (earlier ++ (agent, after) :: later) agent) := by
            simp only [enqueuedAt, List.filter_append, List.filter_cons, decide_true, if_true,
              List.flatMap_append, List.flatMap_cons, enqueued, List.append_assoc]
            refine List.Perm.append_left _ (List.Perm.append_left _ ?_)
            exact List.perm_append_comm
          simp only [System.setSpool_spools, SpoolHistory.follow, enqueued, List.drop_left]
          exact (before.append_right envelopes).trans more
        · have elsewhere : ((fleet.system.setSpool agent
              ((fleet.system.spools agent).follow after.limits after.spool
                (after.enqueued.drop program.enqueued.length))).spools other) =
              fleet.system.spools other := by
            simp [System.setSpool, Ne.symm here]
          rw [elsewhere]
          refine before.trans (List.Perm.of_eq ?_)
          simp [enqueuedAt, List.filter_append, here]
      · intro entry member
        rw [programs] at member
        have before : ∀ entry ∈ earlier ++ (agent, program) :: later, entry.2.Sound :=
          found ▸ attributed.sound
        rcases List.mem_append.mp member with old | new
        · exact before entry (List.mem_append_left _ old)
        · rcases List.mem_cons.mp new with rfl | old
          · rw [← stepped]
            exact (before (agent, program) (by simp)).step external _ tick
          · exact before entry (by simp [old])

theorem run_attributed (external : External) (actions : List (FleetAction Agent)) :
    (run external actions).Attributed := by
  refine run_invariant ⟨fun agent => ?_, by simp [Fleet.programs]⟩ fun state action _ attributed =>
    (step_advances external state action).attributed attributed
  exact .nil

def arrivals (fleet : Fleet Agent) (node capturePoint : String) : List (UInt64 × PacketMeta) :=
  fleet.programs.flatMap fun entry => entry.2.arrivals node capturePoint

end Fleet

section Programs

variable {node capturePoint : String} {selected : UInt64 → Bool} {program : Program}
  {column : Counters → UInt64} {weight : PacketMeta → UInt64}

theorem placedTotal_flatMap {α : Type} (items : List α) (envelopes : α → List BatchEnvelope) :
    placedTotal column node capturePoint selected (items.flatMap envelopes) =
      (items.map fun item => placedTotal column node capturePoint selected (envelopes item)).sum := by
  induction items with
  | nil => rfl
  | cons item rest ih =>
      rw [List.flatMap_cons, List.map_cons, List.sum_cons, ← ih]
      simp [placedTotal]

theorem placedTotal_node (envelopes : List BatchEnvelope) :
    placedTotal column node capturePoint selected envelopes =
      placedTotal column node capturePoint selected
        (envelopes.filter fun envelope => envelope.body.nodeId == node) := by
  induction envelopes with
  | nil => rfl
  | cons envelope rest ih =>
      simp only [placedTotal] at ih
      by_cases own : envelope.body.nodeId = node
      · simp [placedTotal, own, ih]
      · have elsewhere :
            totalOf (columnOf column) (envelope.placed node capturePoint selected) = 0 := by
          rw [placed_eq, if_neg own]
          rfl
        simp [placedTotal, elsewhere, own, ih]

theorem placedTotal_synthetic {envelopes : List BatchEnvelope}
    (fixture : ∀ envelope ∈ envelopes, ∀ bucket ∈ envelope.body.buckets,
      bucket.key.capturePoint = syntheticCapturePoint)
    (captured : capturePoint ≠ syntheticCapturePoint) {envelope : BatchEnvelope}
    (member : envelope ∈ envelopes) : envelope.placed node capturePoint selected = [] := by
  rw [placed_eq]
  split
  · rw [List.filter_eq_nil_iff]
    intro bucket held matched
    simp only [Bool.and_eq_true, beq_iff_eq] at matched
    exact captured (matched.1.symm.trans (fixture envelope member bucket held))
  · rfl

variable (capturePoint) in
theorem Program.arrivals_elsewhere (other : program.node ≠ node) :
    program.arrivals node capturePoint = [] := by
  cases program with
  | capture config linkType run =>
      have different : config.nodeId ≠ node := other
      simp [Program.arrivals, different]
  | synthetic run => rfl

theorem Program.Sound.arrival (sound : program.Sound)
    (captured : capturePoint ≠ syntheticCapturePoint) {envelope : BatchEnvelope}
    (member : envelope ∈ program.enqueued) {bucket : FlowBucket}
    (held : bucket ∈ envelope.placed node capturePoint selected) :
    ∃ arrival ∈ program.arrivals node capturePoint, arrival.1 = bucket.bucketStart := by
  cases program with
  | capture config linkType run =>
      obtain ⟨rest, apportioned, _, _⟩ := sound
      by_cases own : config.nodeId = node ∧ config.capturePoint = capturePoint
      · rw [placed_eq] at held
        split at held
        · obtain ⟨counted, _⟩ := List.mem_filter.mp held
          obtain ⟨portions, buckets, accepted⟩ := apportioned.batches
          obtain ⟨portion, belongs, equal⟩ := (forall₂_mem buckets).1 envelope member
          obtain ⟨packet, inside, start, _⟩ := mem_tallied (equal ▸ counted)
          have arrived : packet ∈ run.accepted := accepted.mem_iff.mpr
            (List.mem_append_left _ (List.mem_flatten.mpr ⟨portion, belongs, inside⟩))
          refine ⟨(bucketOf config.bucketSeconds packet.timestamp, packet), ?_, start⟩
          rw [Program.arrivals, if_pos own]
          exact List.mem_map_of_mem arrived
        · simp at held
      · rw [apportioned.elsewhere own member] at held
        simp at held
  | synthetic run =>
      rw [placedTotal_synthetic (fun envelope member => (sound envelope member).2) captured
        member] at held
      simp at held

variable (zero : column (0, 0) = 0) (additive : ∀ counters packet,
  column (count counters packet) = column counters + weight packet)
include zero additive

theorem Program.Sound.placed_le (sound : program.Sound)
    (captured : capturePoint ≠ syntheticCapturePoint) :
    placedTotal column node capturePoint selected program.enqueued ≤
      arrivalsIn selected weight (program.arrivals node capturePoint) := by
  cases program with
  | capture config linkType run => exact CaptureRun.Counted.placed_le zero additive sound linkType
  | synthetic run =>
      have nothing : ∀ envelope ∈ run.enqueued,
          totalOf (columnOf column) (envelope.placed node capturePoint selected) = 0 := by
        intro envelope member
        rw [placedTotal_synthetic (fun other held => (sound other held).2) captured member]
        rfl
      have total : placedTotal column node capturePoint selected run.enqueued = 0 := by
        rw [placedTotal, List.map_congr_left nothing]
        simp
      exact total.le.trans (Nat.zero_le _)

end Programs

end FlowObservability
