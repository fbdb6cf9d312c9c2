import Mathlib.Algebra.BigOperators.Ring.Finset
import FlowObservability.CaptureConservation
import FlowObservability.ControlHistory
import FlowObservability.ControlQueries

/-!
From packets to the time series: the batches of a capture, once they are all in the control
store, make up the series of the packets it accepted.
-/

namespace FlowObservability

open Table Transaction

def packetsAt (bucketSeconds start : UInt64) (packets : List PacketMeta) : List PacketMeta :=
  packets.filter fun packet => bucketOf bucketSeconds packet.timestamp == start

structure SeriesOf (bucketSeconds : UInt64) (accepted : List PacketMeta)
    (points : List SeriesPoint) : Prop where
  increasing : points.Pairwise fun earlier later => earlier.bucketStart < later.bucketStart
  starts : ∀ start, (∃ point ∈ points, point.bucketStart = start) ↔
    ∃ packet ∈ accepted, bucketOf bucketSeconds packet.timestamp = start
  packets : ∀ point ∈ points,
    point.packets.toNat = (packetsAt bucketSeconds point.bucketStart accepted).length
  bytes : ∀ point ∈ points, point.bytes.toNat =
    ((packetsAt bucketSeconds point.bucketStart accepted).map (·.wireBytes.toNat)).sum

/-! Batches that are ingested and do not expire are in the store. -/

def NodeUnexpired (external : External) (node : String) (calls : List IngestCall) : Prop :=
  ∀ before call after, calls = before ++ call :: after →
    ∀ row ∈ (ControlHistory.run external before).tables.ingestedBatches, row.nodeId = node →
      (call.cutoff : Int) ≤ row.createdAt

theorem NothingExpires.node {external : External} {calls : List IngestCall}
    (unexpired : NothingExpires external calls) (node : String) :
    NodeUnexpired external node calls := by
  intro before call after same row member _
  exact unexpired before call after same row member

def ControlHistory.Retains (history : ControlHistory) (node : String)
    (batches : List BatchEnvelope) (ledger : Ledger) : Prop :=
  history.tables = ledger.tables ∧
    (∀ envelope ∈ batches, history.Accepted envelope → envelope ∈ ledger.stored) ∧
    ∀ stored ∈ ledger.stored, stored.body.nodeId = node → stored ∈ batches

section Retention

variable {external : External} {limits : ControlLimits} {ledger : Ledger} {now : UInt64}
variable {envelope stored : BatchEnvelope} {node : String} {batches : List BatchEnvelope}

theorem ControlHistory.Retains.step {history : ControlHistory} {call : IngestCall}
    (retains : history.Retains node batches ledger)
    (owned : ∀ envelope ∈ batches, envelope.body.nodeId = node)
    (exclusive : call.envelope.body.nodeId = node → call.envelope ∈ batches)
    (unexpired : ∀ row ∈ history.tables.ingestedBatches, row.nodeId = node →
      (call.cutoff : Int) ≤ row.createdAt) :
    ∃ next, (history.step external call).Retains node batches next := by
  obtain ⟨tables, accepted, only⟩ := retains
  rcases call.outcome_refines external tables with ideal | ⟨error, _, broken⟩
  · refine ⟨(ledger.ingestAt external call.limits call.envelope call.now).2,
      congrArg Prod.snd ideal, ?_, ?_⟩
    · intro envelope member now
      rcases now.of_step with old | ⟨rfl, inserted⟩
      · have stored := accepted envelope member old
        apply Ledger.ingestAt_keeps stored
        have recent := unexpired (ingestedBatch envelope)
          (tables ▸ List.mem_map_of_mem stored) (owned envelope member)
        exact Int.ofNat_le.mp recent
      · exact Ledger.mem_of_inserted ((congrArg Prod.fst ideal).symm.trans inserted)
    · intro stored member belongs
      rcases Ledger.mem_ingestAt member with old | ⟨rfl, _⟩
      · exact only stored old belongs
      · exact exclusive belongs
  · refine ⟨ledger, (congrArg Prod.snd broken).trans tables, ?_, only⟩
    intro envelope member now
    rcases now.of_step with old | ⟨_, inserted⟩
    · exact accepted envelope member old
    · have failed := (congrArg Prod.fst broken).symm.trans inserted
      simp at failed

theorem run_retains {calls : List IngestCall}
    (owned : ∀ envelope ∈ batches, envelope.body.nodeId = node)
    (exclusive : ∀ call ∈ calls, call.envelope.body.nodeId = node → call.envelope ∈ batches)
    (unexpired : NodeUnexpired external node calls) :
    ∃ ledger, (ControlHistory.run external calls).Retains node batches ledger := by
  induction calls using List.reverseRecOn with
  | nil =>
      refine ⟨Ledger.empty, rfl, ?_, by simp [Ledger.empty]⟩
      rintro envelope _ ⟨answer, member, _⟩
      simp [ControlHistory.run] at member
  | append_singleton calls call ih =>
      obtain ⟨ledger, retains⟩ := ih
        (fun other member => exclusive other (List.mem_append_left _ member))
        (fun before other after same => unexpired before other (after ++ [call]) (by simp [same]))
      rw [ControlHistory.run, Runs.run_snoc]
      exact retains.step owned (exclusive call (by simp)) (unexpired calls call [] rfl)

end Retention

/-! The rows of the batches. -/

section Rows

variable {config : CaptureConfig} {run : CaptureRun} {ledger : Ledger}

theorem CaptureRun.Batched.bucket_packet (batched : run.Batched config)
    {envelope : BatchEnvelope} (member : envelope ∈ run.enqueued) {bucket : FlowBucket}
    (held : bucket ∈ envelope.body.buckets) : ∃ packet ∈ run.accepted,
      bucketOf config.bucketSeconds packet.timestamp = bucket.bucketStart ∧
        packet.key = bucket.key := by
  obtain ⟨portions, buckets, same⟩ := batched.batches
  obtain ⟨portion, belongs, equal⟩ := (forall₂_mem buckets).1 envelope member
  obtain ⟨packet, counted, fields⟩ := mem_tallied (equal ▸ held)
  refine ⟨packet, same.mem_iff.mpr ?_, fields⟩
  simpa using ⟨portion, belongs, counted⟩

theorem CaptureRun.Batched.packet_bucket (batched : run.Batched config)
    {packet : PacketMeta} (accepted : packet ∈ run.accepted) :
    ∃ envelope ∈ run.enqueued, ∃ bucket ∈ envelope.body.buckets,
      bucket.bucketStart = bucketOf config.bucketSeconds packet.timestamp := by
  obtain ⟨portions, buckets, same⟩ := batched.batches
  have counted := same.mem_iff.mp accepted
  simp only [List.append_nil, List.mem_flatten] at counted
  obtain ⟨portion, belongs, inside⟩ := counted
  obtain ⟨envelope, member, equal⟩ := (forall₂_mem buckets).2 portion belongs
  obtain ⟨bucket, held, start⟩ := tallied_start inside
  exact ⟨envelope, member, bucket, equal ▸ held, start⟩

theorem matching_perm (batched : run.Batched config)
    (only : ∀ stored ∈ ledger.stored, stored.body.nodeId = config.nodeId → stored ∈ run.enqueued)
    (all : ∀ envelope ∈ run.enqueued, envelope ∈ ledger.stored) :
    (ledger.tables.matching config.nodeId (some config.capturePoint)).Perm
      (run.enqueued.flatMap flowRows) := by
  have rows : ledger.tables.matching config.nodeId (some config.capturePoint) =
      (ledger.stored.filter fun stored => stored.body.nodeId == config.nodeId).flatMap
        flowRows := by
    apply filter_flatMap
    intro stored member row belongs
    obtain ⟨bucket, held, rfl⟩ := List.mem_map.mp belongs
    by_cases own : stored.body.nodeId = config.nodeId
    · obtain ⟨packet, accepted, _, key⟩ := batched.bucket_packet (only stored member own) held
      have point := batched.capturePoint packet accepted
      rw [key] at point
      simp [FlowRow.matching, flowRow, own, point]
    · simp [FlowRow.matching, flowRow, own]
  rw [rows]
  apply List.Perm.flatMap_right
  rw [List.perm_ext_iff_of_nodup (ledger.batchIds.of_map.filter _) batched.distinct.of_map]
  intro envelope
  rw [List.mem_filter]
  constructor
  · rintro ⟨stored, own⟩
    exact only envelope stored (by simpa using own)
  · intro member
    exact ⟨all envelope member, by simpa using batched.node envelope member⟩

theorem rows_sum {column : FlowRow → Int} {field : FlowBucket → Nat}
    (same : ∀ envelope bucket, column (flowRow envelope bucket) = field bucket)
    (batches : List BatchEnvelope) (start : UInt64) :
    (((batches.flatMap flowRows).filter fun row => row.bucketStart == (start.toNat : Int)).map
        column).sum =
      (((batches.flatMap (·.body.buckets)).filter fun bucket =>
        bucket.bucketStart == start).map field).sum := by
  have columns : ((batches.flatMap flowRows).filter fun row =>
      row.bucketStart == (start.toNat : Int)).map column =
        (((batches.flatMap (·.body.buckets)).filter fun bucket =>
          bucket.bucketStart == start).map field).map Nat.cast := by
    induction batches with
    | nil => rfl
    | cons envelope rest ih =>
        have first : ((flowRows envelope).filter fun row =>
            row.bucketStart == (start.toNat : Int)).map column =
              ((envelope.body.buckets.filter fun bucket =>
                bucket.bucketStart == start).map field).map Nat.cast := by
          rw [flowRows, List.filter_map, List.map_map, List.map_map]
          have selected : ((fun row => row.bucketStart == (start.toNat : Int)) ∘ flowRow envelope) =
              fun bucket => bucket.bucketStart == start := by
            funext bucket
            rw [Bool.eq_iff_iff]
            simp [flowRow, UInt64.toNat_inj]
          rw [selected]
          exact List.map_congr_left fun bucket _ => same envelope bucket
        simp only [List.flatMap_cons, List.filter_append, List.map_append, first, ih]
  rw [columns, Nat.cast_list_sum]

def TotalsBelow (bound : Nat) (bucketSeconds : UInt64) (accepted : List PacketMeta) : Prop :=
  ∀ start, (packetsAt bucketSeconds start accepted).length < bound ∧
    ((packetsAt bucketSeconds start accepted).map (·.wireBytes.toNat)).sum < bound

theorem rows_totals (batched : run.Batched config)
    (totals : TotalsBelow (2 ^ 63) config.bucketSeconds run.accepted) {rows : List FlowRow}
    (same : rows.Perm (run.enqueued.flatMap flowRows)) (start : UInt64) :
    ((rows.filter fun row => row.bucketStart == (start.toNat : Int)).map FlowRow.packets).sum =
        ((packetsAt config.bucketSeconds start run.accepted).length : Int) ∧
      ((rows.filter fun row => row.bucketStart == (start.toNat : Int)).map FlowRow.bytes).sum =
        (((packetsAt config.bucketSeconds start run.accepted).map
          (·.wireBytes.toNat)).sum : Nat) := by
  obtain ⟨packetsFit, bytesFit⟩ := totals start
  have selected := same.filter fun row => row.bucketStart == (start.toNat : Int)
  have ones : ((packetsAt config.bucketSeconds start run.accepted).map
      fun _ => (1 : UInt64).toNat).sum =
        (packetsAt config.bucketSeconds start run.accepted).length := by simp
  constructor
  · have counted := batched.sum Prod.fst (fun _ => 1) rfl (fun _ _ => rfl) start
      (ones ▸ packetsFit.trans (by decide))
    rw [(selected.map FlowRow.packets).sum_eq, rows_sum (fun _ _ => rfl), counted]
    exact congrArg Nat.cast ones
  · have counted := batched.sum Prod.snd (·.wireBytes) rfl (fun _ _ => rfl) start
      (bytesFit.trans (by decide))
    rw [(selected.map FlowRow.bytes).sum_eq, rows_sum (fun _ _ => rfl), counted]
    rfl

theorem group_start (batched : run.Batched config) {rows group : List FlowRow}
    (same : rows.Perm (run.enqueued.flatMap flowRows)) {bucketStart : Int}
    (grouped : (bucketStart, group) ∈ groupBy (·.bucketStart) rows) :
    ∃ start : UInt64, bucketStart = (start.toNat : Int) ∧
      (∃ packet ∈ run.accepted, bucketOf config.bucketSeconds packet.timestamp = start) ∧
      group = rows.filter fun row => row.bucketStart == (start.toNat : Int) := by
  obtain ⟨subset, ⟨row, belongs, key⟩, _⟩ := mem_groupBy grouped
  obtain ⟨envelope, member, inside⟩ := List.mem_flatMap.mp (same.mem_iff.mp (subset belongs))
  obtain ⟨bucket, held, rfl⟩ := List.mem_map.mp inside
  obtain ⟨packet, accepted, start, _⟩ := batched.bucket_packet member held
  obtain ⟨value, _, equal⟩ := List.mem_map.mp grouped
  obtain ⟨rfl, rfl⟩ := Prod.mk.inj equal
  exact ⟨bucket.bucketStart, key.symm, ⟨packet, accepted, start⟩, by rw [← key]; rfl⟩

theorem point_counts (batched : run.Batched config)
    (totals : TotalsBelow (2 ^ 63) config.bucketSeconds run.accepted) {rows : List FlowRow}
    (same : rows.Perm (run.enqueued.flatMap flowRows)) {point : SeriesPoint}
    (member : point ∈ (groupBy (·.bucketStart) rows).map seriesValue) :
    (∃ packet ∈ run.accepted,
        bucketOf config.bucketSeconds packet.timestamp = point.bucketStart) ∧
      point.packets.toNat =
        (packetsAt config.bucketSeconds point.bucketStart run.accepted).length ∧
      point.bytes.toNat = ((packetsAt config.bucketSeconds point.bucketStart run.accepted).map
        (·.wireBytes.toNat)).sum := by
  obtain ⟨⟨bucketStart, group⟩, grouped, rfl⟩ := List.mem_map.mp member
  obtain ⟨start, rfl, packet, rfl⟩ := group_start batched same grouped
  obtain ⟨packetsFit, bytesFit⟩ := totals start
  obtain ⟨packets, bytes⟩ := rows_totals batched totals same start
  simp only [seriesValue, packets, bytes, Int.toNat_natCast, UInt64.ofNat_toNat]
  exact ⟨packet, UInt64.toNat_ofNat_of_lt' (packetsFit.trans (by decide)),
    UInt64.toNat_ofNat_of_lt' (bytesFit.trans (by decide))⟩

theorem seriesOf_rows (batched : run.Batched config)
    (totals : TotalsBelow (2 ^ 63) config.bucketSeconds run.accepted) {rows : List FlowRow}
    (same : rows.Perm (run.enqueued.flatMap flowRows)) :
    SeriesOf config.bucketSeconds run.accepted
      ((groupBy (·.bucketStart) rows).map seriesValue) := by
  constructor
  · rw [List.pairwise_map]
    refine List.Pairwise.imp_of_mem ?_ (groupBy_sorted FlowRow.bucketStart rows)
    rintro ⟨first, firstGroup⟩ ⟨second, secondGroup⟩ firstMem secondMem less
    obtain ⟨firstStart, rfl, _⟩ := group_start batched same firstMem
    obtain ⟨secondStart, rfl, _⟩ := group_start batched same secondMem
    simp only [seriesValue, Int.toNat_natCast, UInt64.ofNat_toNat, UInt64.lt_iff_toNat_lt]
    exact Int.ofNat_lt.mp less
  · intro start
    constructor
    · rintro ⟨point, member, rfl⟩
      exact (point_counts batched totals same member).1
    · rintro ⟨packet, accepted, rfl⟩
      obtain ⟨envelope, member, bucket, held, start⟩ := batched.packet_bucket accepted
      have row : flowRow envelope bucket ∈ rows :=
        same.mem_iff.mpr (List.mem_flatMap.mpr ⟨envelope, member, List.mem_map_of_mem held⟩)
      have key : (bucket.bucketStart.toNat : Int) ∈ groupKeys FlowRow.bucketStart rows :=
        mem_groupKeys.mpr ⟨_, row, rfl⟩
      refine ⟨_, List.mem_map_of_mem (List.mem_map_of_mem key), ?_⟩
      simp [seriesValue, start]
  · intro point member
    exact (point_counts batched totals same member).2.1
  · intro point member
    exact (point_counts batched totals same member).2.2

end Rows

/-- Of a capture that returned without an error and whose batches are all ingested, with no other
data of its node, none of it expired and no total out of range: the series is that of the packets
the parser accepted, and the parse errors are the frames it rejected. -/
theorem series_conserves_packets (external : External) (config : CaptureConfig)
    (opening : Except CaptureError Int32) (openFaults : SpoolFaults) (ticks : List Tick)
    (spool : SpoolTables) (run : CaptureRun) (calls : List IngestCall)
    (captured : capture external config opening openFaults ticks spool = .ok run)
    (returned : run.result = some (.ok ()))
    (ingested : ∀ envelope ∈ run.enqueued, (ControlHistory.run external calls).Accepted envelope)
    (exclusive : ∀ call ∈ calls, call.envelope.body.nodeId = config.nodeId →
      call.envelope ∈ run.enqueued)
    (unexpired : NodeUnexpired external config.nodeId calls)
    (totals : TotalsBelow (2 ^ 63) config.bucketSeconds run.accepted)
    (rejected : run.rejected < 2 ^ 63) :
    (∃ points, ControlStore.series noFaults config.nodeId (some config.capturePoint) none none
        (ControlHistory.run external calls).tables = .ok points ∧
      SeriesOf config.bucketSeconds run.accepted points) ∧
    (run.enqueued.map (·.body.diagnostics.parseErrors.toNat)).sum = run.rejected := by
  have batched := CaptureRun.batched_of_capture captured returned (rejected.trans (by decide))
  obtain ⟨ledger, tables, accepted, only⟩ := run_retains batched.node exclusive unexpired
  have same := matching_perm batched only fun envelope member =>
    accepted envelope member (ingested envelope member)
  constructor
  · rw [tables]
    refine ⟨_, series_ok ledger.tables_unsigned ?_, seriesOf_rows batched totals same⟩
    intro bucketStart group grouped
    obtain ⟨start, _, _, rfl⟩ := group_start batched same grouped
    obtain ⟨packets, bytes⟩ := rows_totals batched totals same start
    obtain ⟨packetsFit, bytesFit⟩ := totals start
    rw [packets, bytes]
    exact ⟨by omega, by omega⟩
  · exact batched.errors

theorem totalsBelow_of_total {bound : Nat} {bucketSeconds : UInt64} {accepted : List PacketMeta}
    (packets : accepted.length < bound) (bytes : (accepted.map (·.wireBytes.toNat)).sum < bound) :
    TotalsBelow bound bucketSeconds accepted := by
  intro start
  have part : (packetsAt bucketSeconds start accepted).Sublist accepted := List.filter_sublist
  exact ⟨lt_of_le_of_lt part.length_le packets,
    lt_of_le_of_lt ((part.map _).sum_le_sum fun _ _ => Nat.zero_le _) bytes⟩

/-! A packet, then a frame that does not parse, after which the bucket of the packet is drained. -/

def pingTicks : List Tick := [
  { next := .ok { data := ping, tvSec := 11, len := 60 }, clock := some 12 },
  { next := .ok { data := [], tvSec := 12, len := 0 }, clock := some 25 }]

def pingArgs : EnqueueArgs := pingBatch 25 10 { parseErrors := 1 }

def pingExternal : External := External.ofTable
  [((pingArgs.envelope (External.ofTable [] []) 0).body.toJson.render,
    ⟨#[196, 138, 251, 3, 80, 181, 22, 67, 59, 232, 215, 246, 150, 106, 190, 246, 237,
      180, 84, 252, 25, 228, 23, 159, 164, 15, 62, 2, 226, 19, 76, 32], rfl⟩)] []

def pingRun : CaptureRun :=
  Runs.run (CaptureRun.step pingExternal pingConfig LINKTYPE_RAW) pingStart pingTicks

def pingCall : IngestCall where
  envelope := pingArgs.envelope pingExternal 0
  now := 30

theorem series_conserves_packets_ping :
    (∃ points, ControlStore.series noFaults "n" (some "p") none none
        (ControlHistory.run pingExternal [pingCall, pingCall]).tables = .ok points ∧
      SeriesOf 10 pingRun.accepted points) ∧
    (pingRun.enqueued.map (·.body.diagnostics.parseErrors.toNat)).sum = pingRun.rejected := by
  have captured : capture pingExternal pingConfig (.ok LINKTYPE_RAW) noFaults pingTicks {} =
      .ok pingRun := rfl
  have enqueued : pingRun.enqueued = [pingCall.envelope] := by decide +kernel
  have inserted : (pingCall.outcome pingExternal {}).1 = .ok .inserted := by decide +kernel
  have only : ∀ call ∈ [pingCall, pingCall], call = pingCall := by simp
  refine series_conserves_packets pingExternal pingConfig (.ok LINKTYPE_RAW) noFaults pingTicks {}
    pingRun [pingCall, pingCall] captured ?_ ?_ ?_ ?_ ?_ ?_
  · decide +kernel
  · intro envelope member
    rw [enqueued] at member
    rw [List.mem_singleton.mp member]
    refine ⟨(pingCall, .ok .inserted), ?_, rfl, rfl⟩
    simp [ControlHistory.run, Runs.run, ControlHistory.step, inserted]
  · intro call member _
    rw [only call member, enqueued]
    exact List.mem_singleton_self _
  · apply (nothingExpires_of_zero _).node
    intro call member
    rw [only call member]
    decide
  · refine totalsBelow_of_total ?_ ?_
    · decide +kernel
    · decide +kernel
  · decide +kernel

end FlowObservability
