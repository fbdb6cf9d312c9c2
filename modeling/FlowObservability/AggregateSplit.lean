import Mathlib.Algebra.Order.BigOperators.Group.List
import FlowObservability.Aggregate
import FlowObservability.Library.Runs

/-!
Runs of the aggregator: `drain_before` cuts the entries at a bucket start, and each packet
pushed is counted once, in an entry drained or in one still held.
-/

namespace FlowObservability

open Runs Table Tally

def FlowBucket.slot (bucket : FlowBucket) : FlowSlot := toLex (bucket.bucketStart, bucket.key)

def Aggregator.entries (aggregator : Aggregator) : List FlowBucket := toBuckets aggregator.flows

/-! Tallies by slot. -/

section Sums

variable {column : Counters → UInt64} {weight : PacketMeta → UInt64} {bucketSeconds : UInt64}

theorem column_foldl (additive : ∀ counters packet,
    column (count counters packet) = column counters + weight packet) (group : List PacketMeta)
    (start : Counters) : column (group.foldl count start) =
      group.foldl (fun total packet => total + weight packet) (column start) := by
  induction group generalizing start with
  | nil => rfl
  | cons packet rest ih => rw [List.foldl_cons, List.foldl_cons, ih, additive]

theorem tallied_select (selected : FlowSlot → Bool) (packets : List PacketMeta) :
    (tallied bucketSeconds packets).filter (fun bucket => selected bucket.slot) =
      tallied bucketSeconds (packets.filter fun packet =>
        selected (slotOf bucketSeconds packet)) := by
  have groups := groupBy_filter (slotOf bucketSeconds) selected packets
  rw [tallied, List.filter_map]
  exact congrArg (List.map _) groups

theorem tallied_sorted (packets : List PacketMeta) :
    (tallied bucketSeconds packets).Pairwise fun first second => first.slot < second.slot :=
  List.pairwise_map.mpr (groupBy_sorted (slotOf bucketSeconds) packets)

variable (zero : column (0, 0) = 0) (additive : ∀ counters packet,
  column (count counters packet) = column counters + weight packet) (selected : FlowSlot → Bool)
include zero additive

theorem tallied_sum_select (packets : List PacketMeta)
    (fits : ((packets.filter fun packet => selected (slotOf bucketSeconds packet)).map
      fun packet => (weight packet).toNat).sum < 2 ^ 64) :
    (((tallied bucketSeconds packets).filter fun bucket => selected bucket.slot).map
        fun bucket => (column (bucket.packets, bucket.bytes)).toNat).sum =
      ((packets.filter fun packet => selected (slotOf bucketSeconds packet)).map
        fun packet => (weight packet).toNat).sum := by
  rw [tallied_select, ← groupBy_sum _ (slotOf bucketSeconds), tallied, List.map_map]
  congr 1
  apply List.map_congr_left
  rintro ⟨slot, group⟩ grouped
  have part := (groupBy_sublist grouped).map fun packet => (weight packet).toNat
  have small : (group.map fun packet => (weight packet).toNat).sum < 2 ^ 64 :=
    lt_of_le_of_lt (part.sum_le_sum fun _ _ => Nat.zero_le _) fits
  have counted : (group.foldl (fun total packet => total + weight packet) 0).toNat =
      (0 : UInt64).toNat + (group.map fun packet => (weight packet).toNat).sum :=
    Words.foldl_add_toNat (by simpa using small)
  simp only [Function.comp_apply, column_foldl additive, zero]
  simpa using counted

variable (column weight) in
theorem portions_sum (portions : List (List PacketMeta))
    (fits : ((portions.flatten.filter fun packet => selected (slotOf bucketSeconds packet)).map
      fun packet => (weight packet).toNat).sum < 2 ^ 64) :
    (((portions.flatMap (tallied bucketSeconds)).filter fun bucket => selected bucket.slot).map
        fun bucket => (column (bucket.packets, bucket.bytes)).toNat).sum =
      ((portions.flatten.filter fun packet => selected (slotOf bucketSeconds packet)).map
        fun packet => (weight packet).toNat).sum := by
  induction portions with
  | nil => rfl
  | cons portion rest ih =>
      simp only [List.flatten_cons, List.filter_append, List.map_append, List.sum_append] at fits
      simp only [List.flatMap_cons, List.flatten_cons, List.filter_append, List.map_append,
        List.sum_append]
      rw [tallied_sum_select zero additive selected portion (by omega), ih (by omega)]

end Sums

/-! Calls in any order. -/

inductive AggregatorCall where
  | push (packet : PacketMeta)
  | drainBefore (bucketStart : UInt64)
  | drainAll

structure AggregatorHistory where
  aggregator : Aggregator
  pushed : List PacketMeta := []
  drained : List FlowBucket := []

namespace AggregatorHistory

def step (history : AggregatorHistory) : AggregatorCall → AggregatorHistory
  | .push packet => { history with
      aggregator := history.aggregator.push packet
      pushed := history.pushed ++ [packet] }
  | .drainBefore bucketStart => { history with
      aggregator := (history.aggregator.drainBefore bucketStart).2
      drained := history.drained ++ (history.aggregator.drainBefore bucketStart).1 }
  | .drainAll => { history with
      aggregator := history.aggregator.drainAll.2
      drained := history.drained ++ history.aggregator.drainAll.1 }

def run (aggregator : Aggregator) (calls : List AggregatorCall) : AggregatorHistory :=
  Runs.run step { aggregator } calls

/-- The packets pushed are those drained in some portions and those the aggregator holds. -/
structure Balanced (bucketSeconds : UInt64) (history : AggregatorHistory) : Prop where
  seconds : history.aggregator.bucketSeconds = bucketSeconds
  packets : ∃ (portions : List (List PacketMeta)) (held : List PacketMeta),
    history.aggregator.Holds held ∧
    history.drained = portions.flatMap (tallied bucketSeconds) ∧
    history.pushed.Perm (portions.flatten ++ held)

variable {bucketSeconds : UInt64} {history : AggregatorHistory}

theorem Balanced.step (balanced : history.Balanced bucketSeconds) (call : AggregatorCall) :
    (history.step call).Balanced bucketSeconds := by
  obtain ⟨seconds, portions, held, holds, drained, pushed⟩ := balanced
  cases call with
  | push packet =>
      refine ⟨seconds, portions, held ++ [packet], holds.push packet, drained, ?_⟩
      simpa [AggregatorHistory.step] using pushed.append_right [packet]
  | drainBefore bucketStart =>
      obtain ⟨removed, retained⟩ := holds.drainBefore bucketStart
      refine ⟨seconds, portions ++ [held.filter fun packet =>
        decide (bucketOf history.aggregator.bucketSeconds packet.timestamp < bucketStart)], _,
          retained, ?_, ?_⟩
      · rw [seconds] at removed
        simp [AggregatorHistory.step, drained, removed, seconds]
      · have halves := (List.filter_append_perm (fun packet =>
          decide (bucketOf history.aggregator.bucketSeconds packet.timestamp < bucketStart))
            held).symm
        simpa [AggregatorHistory.step] using pushed.trans (halves.append_left _)
  | drainAll =>
      obtain ⟨removed, retained⟩ := holds.drainAll
      refine ⟨seconds, portions ++ [held], [], retained, ?_, ?_⟩
      · rw [seconds] at removed
        simp [AggregatorHistory.step, drained, removed]
      · simpa [AggregatorHistory.step] using pushed

theorem run_balanced {aggregator : Aggregator}
    (created : Aggregator.new bucketSeconds = some aggregator) (calls : List AggregatorCall) :
    (run aggregator calls).Balanced bucketSeconds := by
  obtain ⟨seconds, holds⟩ := Aggregator.new_holds created
  apply run_invariant
  · exact ⟨seconds, [], [], holds, rfl, .nil⟩
  · exact fun history call _ balanced => balanced.step call

theorem Balanced.sum (balanced : history.Balanced bucketSeconds) (column : Counters → UInt64)
    (weight : PacketMeta → UInt64) (zero : column (0, 0) = 0)
    (additive : ∀ counters packet,
      column (count counters packet) = column counters + weight packet) (slot : FlowSlot)
    (fits : ((history.pushed.filter fun packet => slotOf bucketSeconds packet == slot).map
      fun packet => (weight packet).toNat).sum < 2 ^ 64) :
    (((history.drained ++ history.aggregator.entries).filter fun bucket => bucket.slot == slot).map
        fun bucket => (column (bucket.packets, bucket.bytes)).toNat).sum =
      ((history.pushed.filter fun packet => slotOf bucketSeconds packet == slot).map
        fun packet => (weight packet).toNat).sum := by
  obtain ⟨seconds, portions, held, holds, drained, pushed⟩ := balanced
  have entries : history.aggregator.entries = tallied bucketSeconds held := by
    rw [← seconds]
    exact toBuckets_eq holds
  have all : history.drained ++ history.aggregator.entries =
      (portions ++ [held]).flatMap (tallied bucketSeconds) := by
    simp [drained, entries]
  have packets : portions.flatten ++ held = (portions ++ [held]).flatten := by simp
  rw [packets] at pushed
  have sums := ((pushed.filter fun packet => slotOf bucketSeconds packet == slot).map
    fun packet => (weight packet).toNat).sum_eq
  rw [sums] at fits ⊢
  rw [all]
  exact portions_sum column weight zero additive (· == slot) (portions ++ [held]) fits

theorem Balanced.drainBefore (balanced : history.Balanced bucketSeconds) (bucketStart : UInt64) :
    let split := history.aggregator.drainBefore bucketStart
    split.1 = history.aggregator.entries.filter
        (fun entry => decide (entry.bucketStart < bucketStart)) ∧
      split.1.Pairwise (fun first second => first.slot < second.slot) ∧
      split.2.entries = history.aggregator.entries.filter
        fun entry => decide (bucketStart ≤ entry.bucketStart) := by
  obtain ⟨_, portions, held, holds, _, _⟩ := balanced
  obtain ⟨removed, retained⟩ := holds.drainBefore bucketStart
  have entries : history.aggregator.entries =
      tallied history.aggregator.bucketSeconds held := toBuckets_eq holds
  have after : (history.aggregator.drainBefore bucketStart).2.entries = _ := toBuckets_eq retained
  refine ⟨?_, ?_, ?_⟩
  · rw [removed, entries]
    exact (tallied_select (fun slot => decide ((ofLex slot).1 < bucketStart)) held).symm
  · rw [removed]
    exact tallied_sorted _
  · rw [after, entries]
    simp only [← not_lt, decide_not]
    exact (tallied_select (fun slot => !decide ((ofLex slot).1 < bucketStart)) held).symm

end AggregatorHistory

def packetsIn (bucketSeconds : UInt64) (slot : FlowSlot) (packets : List PacketMeta) :
    List PacketMeta :=
  packets.filter fun packet => slotOf bucketSeconds packet == slot

def entriesIn (slot : FlowSlot) (entries : List FlowBucket) : List FlowBucket :=
  entries.filter fun entry => entry.slot == slot

/-- After any calls `drain_before` returns the entries below the bound in strictly increasing
order and keeps the others as they are, and at every slot the entries drained so far and those
held count the packets pushed there. -/
theorem drain_before_splits (bucketSeconds : UInt64) (aggregator : Aggregator)
    (created : Aggregator.new bucketSeconds = some aggregator) (calls : List AggregatorCall)
    (bucketStart : UInt64) :
    let history := AggregatorHistory.run aggregator calls
    let split := history.aggregator.drainBefore bucketStart
    (split.1 = history.aggregator.entries.filter
        (fun entry => decide (entry.bucketStart < bucketStart)) ∧
      split.1.Pairwise (fun first second => first.slot < second.slot) ∧
      split.2.entries = history.aggregator.entries.filter
        (fun entry => decide (bucketStart ≤ entry.bucketStart))) ∧
    ∀ slot,
      let packets := packetsIn bucketSeconds slot history.pushed
      let entries := entriesIn slot (history.drained ++ history.aggregator.entries)
      (packets.length < 2 ^ 64 → (entries.map (·.packets.toNat)).sum = packets.length) ∧
      ((packets.map (·.wireBytes.toNat)).sum < 2 ^ 64 →
        (entries.map (·.bytes.toNat)).sum = (packets.map (·.wireBytes.toNat)).sum) := by
  intro history split
  have balanced := AggregatorHistory.run_balanced created calls
  refine ⟨balanced.drainBefore bucketStart, ?_⟩
  intro slot packets entries
  have ones : (packets.map fun _ => (1 : UInt64).toNat).sum = packets.length := by simp
  constructor
  · intro fits
    rw [← ones] at fits ⊢
    exact balanced.sum Prod.fst (fun _ => 1) rfl (fun _ _ => rfl) slot fits
  · intro fits
    exact balanced.sum Prod.snd (·.wireBytes) rfl (fun _ _ => rfl) slot fits

/-! Two packets of one bucket around the drain of an earlier one. -/

def tenSeconds : Aggregator where
  bucketSeconds := 10
  positive := by decide
  flows := ∅

def webPacket (timestamp wireBytes : UInt64) : PacketMeta where
  timestamp
  wireBytes
  key := {
    capturePoint := "physical:eth0"
    direction := .egress
    protocol := .tcp
    sourceIp := .v4 10 0 0 1
    destinationIp := .v4 1 1 1 1
    sourcePort := some 12345
    destinationPort := some 443
  }

def webCalls : List AggregatorCall := [
  .push (webPacket 11 100), .push (webPacket 20 40), .drainBefore 20, .push (webPacket 19 60)]

theorem drain_before_splits_web :
    let history := AggregatorHistory.run tenSeconds webCalls
    (history.aggregator.drainBefore 20).1 =
      history.aggregator.entries.filter (fun entry => decide (entry.bucketStart < 20)) ∧
    ((entriesIn (toLex (10, (webPacket 11 100).key))
      (history.drained ++ history.aggregator.entries)).map (·.packets.toNat)).sum = 2 ∧
    ((entriesIn (toLex (10, (webPacket 11 100).key))
      (history.drained ++ history.aggregator.entries)).map (·.bytes.toNat)).sum = 160 := by
  have created : Aggregator.new 10 = some tenSeconds := dif_pos (by decide)
  obtain ⟨⟨drained, _, _⟩, counts⟩ := drain_before_splits 10 tenSeconds created webCalls 20
  obtain ⟨packets, bytes⟩ := counts (toLex (10, (webPacket 11 100).key))
  refine ⟨drained, ?_, ?_⟩
  · rw [packets (by decide +kernel)]
    decide +kernel
  · rw [bytes (by decide +kernel)]
    decide +kernel

end FlowObservability
