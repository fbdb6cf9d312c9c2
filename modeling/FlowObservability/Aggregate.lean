import Mathlib.Data.List.Lex
import Mathlib.Data.String.Basic
import FlowObservability.Library.Tally
import FlowObservability.Library.Words
import FlowObservability.Packet

/-!
The aggregator: an ordered map from bucket start and flow key to the packets and bytes
counted there since the entry was last drained.
-/

namespace FlowObservability

open Table Tally Words

/-! The order the derive attributes of `model.rs` give flow keys: field by field. -/

def Direction.rank : Direction → Nat
  | ingress => 0
  | egress => 1
  | internal => 2
  | unknown => 3

def TransportProtocol.rank : TransportProtocol → Nat
  | tcp => 0
  | udp => 1
  | icmp => 2
  | other number => 3 + number.toNat

def IpAddr.rank : IpAddr → List Nat
  | v4 first second third fourth => [4, first.toNat, second.toNat, third.toNat, fourth.toNat]
  | v6 octets => 6 :: octets.toList.map UInt8.toNat

def portRank : Option UInt16 → Nat
  | none => 0
  | some port => port.toNat + 1

def FlowKey.rank (key : FlowKey) :
    String ×ₗ Nat ×ₗ Nat ×ₗ List Nat ×ₗ List Nat ×ₗ Nat ×ₗ Nat :=
  toLex (key.capturePoint, toLex (key.direction.rank, toLex (key.protocol.rank,
    toLex (key.sourceIp.rank, toLex (key.destinationIp.rank,
      toLex (portRank key.sourcePort, portRank key.destinationPort))))))

theorem Direction.rank_injective : Function.Injective Direction.rank := by
  intro first second same
  cases first <;> cases second <;> first | rfl | cases same

theorem TransportProtocol.rank_injective : Function.Injective TransportProtocol.rank := by
  intro first second same
  cases first <;> cases second <;> simp only [rank] at same <;> grind [UInt8.toNat_inj]

theorem IpAddr.rank_injective : Function.Injective IpAddr.rank := by
  intro first second same
  cases first with
  | v4 =>
      cases second with
      | v4 => simp_all [rank, UInt8.toNat_inj]
      | v6 => simp [rank] at same
  | v6 octets =>
      cases second with
      | v4 => simp [rank] at same
      | v6 others =>
          simp only [rank, List.cons.injEq, true_and] at same
          have bytes := List.map_injective_iff.mpr (fun _ _ => UInt8.toNat_inj.mp) same
          rw [Vector.toList_inj.mp bytes]

theorem portRank_injective : Function.Injective portRank := by
  intro first second same
  cases first <;> cases second <;> simp_all [portRank, UInt16.toNat_inj]

theorem FlowKey.rank_injective : Function.Injective FlowKey.rank := by
  rintro ⟨⟩ ⟨⟩ same
  simp only [rank, EmbeddingLike.apply_eq_iff_eq, Prod.mk.injEq] at same
  obtain ⟨rfl, direction, protocol, source, destination, sourcePort, destinationPort⟩ := same
  rw [Direction.rank_injective direction, TransportProtocol.rank_injective protocol,
    IpAddr.rank_injective source, IpAddr.rank_injective destination,
    portRank_injective sourcePort, portRank_injective destinationPort]

instance : LinearOrder FlowKey := LinearOrder.lift' FlowKey.rank FlowKey.rank_injective

abbrev FlowSlot := UInt64 ×ₗ FlowKey

abbrev Counters := UInt64 × UInt64

structure Aggregator where
  bucketSeconds : UInt64
  positive : 0 < bucketSeconds
  flows : Std.TreeMap FlowSlot Counters

/-- `new` asserts that buckets have a length. -/
def Aggregator.new (bucketSeconds : UInt64) : Option Aggregator :=
  if positive : 0 < bucketSeconds then some { bucketSeconds, positive, flows := ∅ } else none

def bucketOf (bucketSeconds timestamp : UInt64) : UInt64 :=
  timestamp / bucketSeconds * bucketSeconds

def slotOf (bucketSeconds : UInt64) (packet : PacketMeta) : FlowSlot :=
  toLex (bucketOf bucketSeconds packet.timestamp, packet.key)

def count (counters : Counters) (packet : PacketMeta) : Counters :=
  (counters.1 + 1, counters.2 + packet.wireBytes)

def Aggregator.push (aggregator : Aggregator) (packet : PacketMeta) : Aggregator :=
  { aggregator with
    flows := record (slotOf aggregator.bucketSeconds) (0, 0) count aggregator.flows packet }

def minimumFlowKey : FlowKey where
  capturePoint := ""
  direction := .ingress
  protocol := .tcp
  sourceIp := .v4 0 0 0 0
  destinationIp := .v4 0 0 0 0
  sourcePort := none
  destinationPort := none

def toBuckets (flows : Std.TreeMap FlowSlot Counters) : List FlowBucket :=
  flows.toList.map fun (slot, packets, bytes) =>
    { bucketStart := (ofLex slot).1, key := (ofLex slot).2, packets, bytes }

/-- `split_off` leaves what is below its argument and returns the rest. -/
def Aggregator.drainBefore (aggregator : Aggregator) (bucketStart : UInt64) :
    List FlowBucket × Aggregator :=
  let bound : FlowSlot := toLex (bucketStart, minimumFlowKey)
  let retained := aggregator.flows.filter fun slot _ => decide (bound ≤ slot)
  let drained := aggregator.flows.filter fun slot _ => decide (slot < bound)
  (toBuckets drained, { aggregator with flows := retained })

def Aggregator.drainAll (aggregator : Aggregator) : List FlowBucket × Aggregator :=
  (toBuckets aggregator.flows, { aggregator with flows := ∅ })

theorem IpAddr.rank_minimum (address : IpAddr) : (IpAddr.v4 0 0 0 0).rank ≤ address.rank := by
  apply not_lt.mp
  cases address with
  | v4 => simp [rank, List.cons_lt_cons_iff]
  | v6 => simp [rank, List.cons_lt_cons_iff]

theorem empty_le (text : String) : "" ≤ text := by
  rw [String.le_iff_toList_le]
  exact not_lt.mp (by simp)

theorem minimumFlowKey_le (key : FlowKey) : minimumFlowKey ≤ key := by
  change minimumFlowKey.rank ≤ key.rank
  refine Prod.Lex.toLex_mono ⟨empty_le _, ?_⟩
  refine Prod.Lex.toLex_mono ⟨Nat.zero_le _, ?_⟩
  refine Prod.Lex.toLex_mono ⟨Nat.zero_le _, ?_⟩
  refine Prod.Lex.toLex_mono ⟨IpAddr.rank_minimum _, ?_⟩
  refine Prod.Lex.toLex_mono ⟨IpAddr.rank_minimum _, ?_⟩
  exact Prod.Lex.toLex_mono ⟨Nat.zero_le _, Nat.zero_le _⟩

theorem lt_bound_iff (slot : FlowSlot) (bucketStart : UInt64) :
    slot < toLex (bucketStart, minimumFlowKey) ↔ (ofLex slot).1 < bucketStart := by
  rw [Prod.Lex.lt_iff]
  constructor
  · rintro (earlier | ⟨_, smaller⟩)
    · exact earlier
    · exact absurd (minimumFlowKey_le _) (not_le.mpr smaller)
  · exact .inl

/-! What the aggregator holds: the packets pushed since their entries were last drained. -/

def tallied (bucketSeconds : UInt64) (packets : List PacketMeta) : List FlowBucket :=
  (groupBy (slotOf bucketSeconds) packets).map fun (slot, group) => {
    bucketStart := (ofLex slot).1
    key := (ofLex slot).2
    packets := (group.foldl count (0, 0)).1
    bytes := (group.foldl count (0, 0)).2
  }

def Aggregator.Holds (aggregator : Aggregator) (held : List PacketMeta) : Prop :=
  Tallies (slotOf aggregator.bucketSeconds) (0, 0) count aggregator.flows held

section Holds

variable {aggregator : Aggregator} {held : List PacketMeta}

theorem toBuckets_eq {bucketSeconds : UInt64} {flows : Std.TreeMap FlowSlot Counters}
    (tallies : Tallies (slotOf bucketSeconds) (0, 0) count flows held) :
    toBuckets flows = tallied bucketSeconds held := by
  rw [toBuckets, tallies.toList_eq, List.map_map]
  rfl

theorem Aggregator.new_holds {bucketSeconds : UInt64}
    (created : Aggregator.new bucketSeconds = some aggregator) :
    aggregator.bucketSeconds = bucketSeconds ∧ aggregator.Holds [] := by
  unfold Aggregator.new at created
  split at created
  · cases created
    exact ⟨rfl, tallies_empty⟩
  · simp at created

namespace Aggregator.Holds

theorem push (holds : aggregator.Holds held) (packet : PacketMeta) :
    (aggregator.push packet).Holds (held ++ [packet]) :=
  Tallies.record holds packet

theorem drainBefore (holds : aggregator.Holds held) (bucketStart : UInt64) :
    (aggregator.drainBefore bucketStart).1 = tallied aggregator.bucketSeconds (held.filter
        fun packet => bucketOf aggregator.bucketSeconds packet.timestamp < bucketStart) ∧
      (aggregator.drainBefore bucketStart).2.Holds (held.filter
        fun packet => !decide (bucketOf aggregator.bucketSeconds packet.timestamp < bucketStart)) := by
  have bound : ∀ packet, slotOf aggregator.bucketSeconds packet <
      toLex (bucketStart, minimumFlowKey) ↔
        bucketOf aggregator.bucketSeconds packet.timestamp < bucketStart :=
    fun packet => lt_bound_iff _ _
  constructor
  · have drained := Tallies.filter holds fun slot =>
      decide (slot < toLex (bucketStart, minimumFlowKey))
    simp only [bound] at drained
    exact toBuckets_eq drained
  · have retained := Tallies.filter holds fun slot =>
      decide (toLex (bucketStart, minimumFlowKey) ≤ slot)
    simp only [← not_lt, bound, decide_not] at retained
    simp only [Holds, Aggregator.drainBefore, ← not_lt, decide_not]
    exact retained

theorem drainAll (holds : aggregator.Holds held) :
    aggregator.drainAll.1 = tallied aggregator.bucketSeconds held ∧
      aggregator.drainAll.2.Holds [] :=
  ⟨toBuckets_eq holds, tallies_empty⟩

end Aggregator.Holds

theorem tallied_eq_nil {bucketSeconds : UInt64} (empty : tallied bucketSeconds held = []) :
    held = [] := by
  rw [List.eq_nil_iff_forall_not_mem]
  intro packet member
  have slot : slotOf bucketSeconds packet ∈ groupKeys (slotOf bucketSeconds) held :=
    mem_groupKeys.mpr ⟨packet, member, rfl⟩
  rw [tallied, List.map_eq_nil_iff, groupBy, List.map_eq_nil_iff] at empty
  simp [empty] at slot

end Holds

end FlowObservability
