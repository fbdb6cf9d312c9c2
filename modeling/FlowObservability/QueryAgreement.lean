import Mathlib.Algebra.BigOperators.Ring.Finset
import FlowObservability.ControlHistory
import FlowObservability.ControlQueries

/-!
The answers of the nodes, stats and series queries agree with each other, whatever the
tables hold: windows add up, and so do the capture points that the inventory lists.
-/

namespace FlowObservability

open Table Transaction

section Answers

variable (tables : ControlTables)

def ControlTables.AnswersNodes (items : List NodeInventoryItem) : Prop :=
  ∃ faults, ControlStore.nodes faults tables = .ok items

def ControlTables.AnswersStats (node : String) (capturePoint : Option String)
    (totals : ControlStats) : Prop :=
  ∃ faults, ControlStore.stats faults node capturePoint tables = .ok totals

def ControlTables.AnswersSeries (node : String) (capturePoint : Option String)
    («from» «to» : Option UInt64) (points : List SeriesPoint) : Prop :=
  ∃ faults, ControlStore.series faults node capturePoint «from» «to» tables = .ok points

end Answers

structure PointOf (group : Int × List FlowRow) (point : SeriesPoint) : Prop where
  bucketStart : group.1 = point.bucketStart.toNat
  packets : (group.2.map FlowRow.packets).sum = point.packets.toNat
  bytes : (group.2.map FlowRow.bytes).sum = point.bytes.toNat

def Summarizes (rows : List FlowRow) (points : List SeriesPoint) : Prop :=
  List.Forall₂ PointOf (groupBy FlowRow.bucketStart rows) points

def ControlTables.window (tables : ControlTables) (node : String) (capturePoint : Option String)
    (first last : Int) : List FlowRow :=
  (tables.flowBuckets.filter (FlowRow.within first last)).filter
    (FlowRow.matching node capturePoint)

section Reading

variable {tables : ControlTables} {node : String} {capturePoint : Option String}

theorem pointOf_of_seriesPoint {group : Int × List FlowRow} {point : SeriesPoint}
    (read : seriesPoint group.1 group.2 = .ok point) : PointOf group point := by
  obtain ⟨packets, packetsSum, read⟩ := bind_ok read
  obtain ⟨bytes, bytesSum, read⟩ := bind_ok read
  obtain ⟨start, startRead, read⟩ := bind_ok read
  obtain ⟨packetsOut, packetsRead, read⟩ := bind_ok read
  obtain ⟨bytesOut, bytesRead, read⟩ := bind_ok read
  cases pure_ok read
  refine ⟨(unsigned_ok startRead).1, ?_, ?_⟩
  · rw [← sumOf_ok packetsSum, (unsigned_ok packetsRead).1]
  · rw [← sumOf_ok bytesSum, (unsigned_ok bytesRead).1]

theorem ControlTables.AnswersSeries.summarizes {«from» «to» : Option UInt64}
    {points : List SeriesPoint}
    (answers : tables.AnswersSeries node capturePoint «from» «to» points) :
    Summarizes (tables.window node capturePoint («from».getD 0).toNat
      («to».getD 0x7fffffffffffffff).toNat) points := by
  obtain ⟨faults, answer⟩ := answers
  unfold ControlStore.series at answer
  dsimp only at answer
  split at answer
  · cases answer
  · obtain ⟨first, firstRead, answer⟩ := bind_ok answer
    obtain ⟨last, lastRead, answer⟩ := bind_ok answer
    obtain ⟨_, _, answer⟩ := bind_ok answer
    rw [anyhow_eq_ok] at firstRead lastRead
    rw [sqlite_eq_ok, (integer_ok firstRead).1, (integer_ok lastRead).1] at answer
    rw [Summarizes, ControlTables.window, List.filter_filter]
    exact (forall₂_of_mapM answer).imp fun _ _ => pointOf_of_seriesPoint

theorem ControlTables.AnswersStats.sums {totals : ControlStats}
    (answers : tables.AnswersStats node capturePoint totals) :
    (tables.matching node capturePoint).length = totals.flowBuckets.toNat ∧
      ((tables.matching node capturePoint).map FlowRow.packets).sum = totals.packets.toNat ∧
      ((tables.matching node capturePoint).map FlowRow.bytes).sum = totals.bytes.toNat := by
  obtain ⟨faults, answer⟩ := answers
  obtain ⟨_, _, answer⟩ := bind_ok answer
  obtain ⟨packets, packetsSum, answer⟩ := bind_ok answer
  obtain ⟨bytes, bytesSum, answer⟩ := bind_ok answer
  obtain ⟨batches, _, answer⟩ := bind_ok answer
  obtain ⟨flowBuckets, counted, answer⟩ := bind_ok answer
  obtain ⟨packetsOut, packetsRead, answer⟩ := bind_ok answer
  obtain ⟨bytesOut, bytesRead, answer⟩ := bind_ok answer
  cases pure_ok answer
  rw [sqlite_eq_ok] at packetsSum bytesSum counted packetsRead bytesRead
  refine ⟨Int.ofNat_inj.mp (unsigned_ok counted).1, ?_, ?_⟩
  · rw [← (unsigned_ok packetsRead).1, sumOf_ok packetsSum]
    rfl
  · rw [← (unsigned_ok bytesRead).1, sumOf_ok bytesSum]
    rfl

structure ItemOf (group : (String ×ₗ String) × List FlowRow) (item : NodeInventoryItem) :
    Prop where
  place : toLex (item.nodeId, item.capturePoint) = group.1
  bounds : ∀ row ∈ group.2, (item.firstBucketStart.toNat : Int) ≤ row.bucketStart ∧
    row.bucketStart ≤ item.lastBucketStart.toNat

theorem unsignedAggregate_ok {index : Nat} {column : Option Int} {value : UInt64}
    (read : unsignedAggregate index column = .ok value) : column = some (value.toNat : Int) := by
  cases column with
  | none => cases read
  | some number => rw [(unsigned_ok read).1]

theorem itemOf_of_nodeItem {group : (String ×ₗ String) × List FlowRow} {item : NodeInventoryItem}
    (read : nodeItem (ofLex group.1).1 (ofLex group.1).2 group.2 = .ok item) :
    ItemOf group item := by
  obtain ⟨first, firstRead, read⟩ := bind_ok read
  obtain ⟨last, lastRead, read⟩ := bind_ok read
  cases pure_ok read
  have least := (List.min?_eq_some_iff.mp (unsignedAggregate_ok firstRead)).2
  have greatest := (List.max?_eq_some_iff.mp (unsignedAggregate_ok lastRead)).2
  exact ⟨rfl, fun row member => ⟨least _ (List.mem_map_of_mem member),
    greatest _ (List.mem_map_of_mem member)⟩⟩

theorem ControlTables.AnswersNodes.itemsOf {items : List NodeInventoryItem}
    (answers : tables.AnswersNodes items) :
    List.Forall₂ ItemOf (groupBy FlowRow.place tables.flowBuckets) items := by
  obtain ⟨faults, answer⟩ := answers
  obtain ⟨_, _, answer⟩ := bind_ok answer
  rw [sqlite_eq_ok] at answer
  exact (forall₂_of_mapM answer).imp fun _ _ => itemOf_of_nodeItem

end Reading

/-! The points of a series, without the tables they come from. -/

section Points

variable {rows : List FlowRow} {points others : List SeriesPoint}

theorem pointOf_rightUnique : Relator.RightUnique PointOf := by
  rintro group ⟨start, packets, bytes⟩ ⟨otherStart, otherPackets, otherBytes⟩ first second
  have starts := first.bucketStart.symm.trans second.bucketStart
  have packetCounts := first.packets.symm.trans second.packets
  have byteCounts := first.bytes.symm.trans second.bytes
  rw [SeriesPoint.mk.injEq]
  exact ⟨UInt64.toNat_inj.mp (Int.ofNat_inj.mp starts),
    UInt64.toNat_inj.mp (Int.ofNat_inj.mp packetCounts),
    UInt64.toNat_inj.mp (Int.ofNat_inj.mp byteCounts)⟩

theorem Summarizes.unique (first : Summarizes rows points) (second : Summarizes rows others) :
    points = others :=
  List.right_unique_forall₂' pointOf_rightUnique first second

theorem Summarizes.append {earlier later : List FlowRow} (bound : Int)
    (first : Summarizes earlier points) (second : Summarizes later others)
    (below : rows.filter (fun row => decide (row.bucketStart ≤ bound)) = earlier)
    (above : rows.filter (fun row => decide (bound < row.bucketStart)) = later) :
    Summarizes rows (points ++ others) := by
  subst below above
  rw [Summarizes, ← groupBy_append FlowRow.bucketStart bound]
  exact List.rel_append first second

theorem Summarizes.increasing (summarizes : Summarizes rows points) :
    points.Pairwise fun first second => first.bucketStart < second.bucketStart := by
  have keys : (groupBy FlowRow.bucketStart rows).map Prod.fst =
      points.map fun point => (point.bucketStart.toNat : Int) := by
    rw [← List.forall₂_eq_eq_eq, List.forall₂_map_left_iff, List.forall₂_map_right_iff]
    exact summarizes.imp fun _ _ pair => pair.bucketStart
  have sorted := groupBy_sorted FlowRow.bucketStart rows
  rw [← List.pairwise_map (f := Prod.fst), keys, List.pairwise_map] at sorted
  exact sorted.imp fun less => UInt64.lt_iff_toNat_lt.mpr (Int.ofNat_lt.mp less)

structure Sums (column : FlowRow → Int) (field : SeriesPoint → UInt64) : Prop where
  group : ∀ group point, PointOf group point → (group.2.map column).sum = (field point).toNat

theorem sums_packets : Sums FlowRow.packets SeriesPoint.packets := ⟨fun _ _ pair => pair.packets⟩

theorem sums_bytes : Sums FlowRow.bytes SeriesPoint.bytes := ⟨fun _ _ pair => pair.bytes⟩

variable {column : FlowRow → Int} {field : SeriesPoint → UInt64}

theorem Sums.total {groups : List (Int × List FlowRow)} (sums : Sums column field)
    (pairs : List.Forall₂ PointOf groups points) :
    ((points.map fun point => (field point).toNat).sum : Int) =
      (groups.map fun group => (group.2.map column).sum).sum := by
  induction pairs with
  | nil => rfl
  | cons pair _ ih =>
      simp only [List.map_cons, List.sum_cons, Nat.cast_add, ih, sums.group _ _ pair]

theorem Summarizes.sum (summarizes : Summarizes rows points) (sums : Sums column field) :
    ((points.map fun point => (field point).toNat).sum : Int) = (rows.map column).sum := by
  rw [sums.total summarizes, groupBy_sum]

theorem Summarizes.sum_at (summarizes : Summarizes rows points) (sums : Sums column field)
    (start : Nat) :
    (((points.filter fun point => point.bucketStart.toNat == start).map
      fun point => (field point).toNat).sum : Int) =
        ((rows.filter fun row => row.bucketStart == (start : Int)).map column).sum := by
  have selected : List.Forall₂ PointOf
      ((groupBy FlowRow.bucketStart rows).filter fun group => group.1 == (start : Int))
      (points.filter fun point => point.bucketStart.toNat == start) := by
    refine List.rel_filter ?_ summarizes
    intro group point pair
    simp [pair.bucketStart]
  rw [sums.total selected, groupBy_sum_at]

theorem Summarizes.mem_starts (summarizes : Summarizes rows points) (start : Nat) :
    (∃ point ∈ points, point.bucketStart.toNat = start) ↔
      ∃ row ∈ rows, row.bucketStart = (start : Int) := by
  constructor
  · rintro ⟨point, member, rfl⟩
    obtain ⟨⟨key, group⟩, grouped, pair⟩ := (forall₂_mem summarizes).2 point member
    obtain ⟨subset, ⟨row, belongs, same⟩, _⟩ := mem_groupBy grouped
    exact ⟨row, subset belongs, same.trans pair.bucketStart⟩
  · rintro ⟨row, member, same⟩
    have grouped : (row.bucketStart, rows.filter fun other =>
        other.bucketStart == row.bucketStart) ∈ groupBy FlowRow.bucketStart rows :=
      List.mem_map_of_mem (mem_groupKeys.mpr ⟨row, member, rfl⟩)
    obtain ⟨point, belongs, pair⟩ := (forall₂_mem summarizes).1 _ grouped
    exact ⟨point, belongs, Int.ofNat_inj.mp (pair.bucketStart.symm.trans same)⟩

end Points

/-! The inventory covers what the other queries read. -/

def listedOf (items : List NodeInventoryItem) (node : String) : List NodeInventoryItem :=
  items.filter fun item => item.nodeId == node

/-- The window of the dashboard's two series, over the integers its numbers stand for. -/
def sharedWindow (primary : NodeInventoryItem) (compare : Option NodeInventoryItem) :
    UInt64 × UInt64 :=
  match compare with
  | none => (primary.firstBucketStart, primary.lastBucketStart)
  | some compare =>
    (min primary.firstBucketStart compare.firstBucketStart,
      max primary.lastBucketStart compare.lastBucketStart)

section Inventory

variable {tables : ControlTables} {node : String} {items : List NodeInventoryItem}

theorem ControlTables.AnswersNodes.places (answers : tables.AnswersNodes items) :
    items.map (fun item => toLex (item.nodeId, item.capturePoint)) =
      groupKeys FlowRow.place tables.flowBuckets := by
  rw [← groupBy_keys, ← List.forall₂_eq_eq_eq, List.forall₂_map_left_iff,
    List.forall₂_map_right_iff]
  exact answers.itemsOf.flip.imp fun _ _ pair => pair.place

theorem ControlTables.AnswersNodes.nodup (answers : tables.AnswersNodes items) :
    (items.map fun item => (item.nodeId, item.capturePoint)).Nodup := by
  have distinct : ((items.map fun item => (item.nodeId, item.capturePoint)).map toLex).Nodup := by
    rw [List.map_map]
    exact answers.places ▸ (groupKeys_sorted FlowRow.place tables.flowBuckets).nodup
  exact distinct.of_map

theorem ControlTables.AnswersNodes.mem_places (answers : tables.AnswersNodes items)
    (place : String × String) :
    place ∈ items.map (fun item => (item.nodeId, item.capturePoint)) ↔
      ∃ row ∈ tables.flowBuckets, (row.nodeId, row.capturePoint) = place := by
  have listed : toLex place ∈ items.map (fun item => toLex (item.nodeId, item.capturePoint)) ↔
      ∃ row ∈ tables.flowBuckets, row.place = toLex place := by
    rw [answers.places, mem_groupKeys]
  simpa [FlowRow.place] using listed

theorem ControlTables.AnswersNodes.covers (answers : tables.AnswersNodes items)
    {item : NodeInventoryItem} (member : item ∈ items) :
    ∀ row ∈ tables.flowBuckets,
      FlowRow.matching item.nodeId (some item.capturePoint) row = true →
        (item.firstBucketStart.toNat : Int) ≤ row.bucketStart ∧
          row.bucketStart ≤ item.lastBucketStart.toNat := by
  intro row stored matching
  obtain ⟨⟨place, group⟩, grouped, pair⟩ := (forall₂_mem answers.itemsOf).2 item member
  simp only [FlowRow.matching, Bool.and_eq_true, beq_iff_eq] at matching
  have same : row.place = place := by
    rw [← show toLex (item.nodeId, item.capturePoint) = place from pair.place, FlowRow.place,
      matching.1, matching.2]
  exact pair.bounds row ((mem_group grouped row).mpr ⟨stored, same⟩)

theorem ControlTables.AnswersNodes.capturePoints_nodup (answers : tables.AnswersNodes items) :
    ((listedOf items node).map (·.capturePoint)).Nodup := by
  have pairs : ((listedOf items node).map fun item => (item.nodeId, item.capturePoint)).Nodup :=
    answers.nodup.sublist (List.filter_sublist.map _)
  rw [List.nodup_map_iff_inj_on pairs.of_map]
  intro first firstMem second secondMem same
  apply List.inj_on_of_nodup_map pairs firstMem secondMem
  rw [listedOf, List.mem_filter, beq_iff_eq] at firstMem secondMem
  rw [firstMem.2, secondMem.2, same]

theorem ControlTables.AnswersNodes.capturePoints_all (answers : tables.AnswersNodes items) :
    ∀ row ∈ tables.flowBuckets, row.nodeId = node →
      row.capturePoint ∈ (listedOf items node).map (·.capturePoint) := by
  intro row stored own
  have listed := (answers.mem_places (row.nodeId, row.capturePoint)).mpr ⟨row, stored, rfl⟩
  obtain ⟨item, member, same⟩ := List.mem_map.mp listed
  obtain ⟨sameNode, samePoint⟩ := Prod.mk.inj same
  refine List.mem_map.mpr ⟨item, List.mem_filter.mpr ⟨member, ?_⟩, samePoint⟩
  simp [sameNode, own]

theorem ControlTables.AnswersNodes.sum_listed {μ : Type} [AddCommMonoid μ]
    (answers : tables.AnswersNodes items) (weight : FlowRow → μ) {rows : List FlowRow}
    (stored : rows ⊆ tables.flowBuckets) :
    ((listedOf items node).map fun item =>
      ((rows.filter (FlowRow.matching node (some item.capturePoint))).map weight).sum).sum =
        ((rows.filter (FlowRow.matching node none)).map weight).sum := by
  have all : ∀ row ∈ rows.filter (FlowRow.matching node none),
      row.capturePoint ∈ (listedOf items node).map (·.capturePoint) := by
    intro row member
    obtain ⟨held, matching⟩ := List.mem_filter.mp member
    exact answers.capturePoints_all row (stored held) (matching_node row matching)
  rw [← sum_groups weight answers.capturePoints_nodup all, List.map_map]
  congr 1
  apply List.map_congr_left
  intro item _
  rw [Function.comp, List.filter_filter]
  congr 2
  apply List.filter_congr
  intro row _
  simp [FlowRow.matching, Bool.and_comm]

end Inventory

/-! Series added up point by point. -/

/-- The series with the bucket starts of the given ones and, at each, the sums of their points. -/
def mergeSeries (series : List (List SeriesPoint)) : List SeriesPoint :=
  (groupBy (·.bucketStart.toNat) series.flatten).map fun group => {
    bucketStart := UInt64.ofNat group.1
    packets := UInt64.ofNat (group.2.map (·.packets.toNat)).sum
    bytes := UInt64.ofNat (group.2.map (·.bytes.toNat)).sum
  }

def sumAt (field : SeriesPoint → UInt64) (start : Nat) (points : List SeriesPoint) : Nat :=
  ((points.filter fun point => point.bucketStart.toNat == start).map
    fun point => (field point).toNat).sum

theorem sumAt_flatten (field : SeriesPoint → UInt64) (start : Nat)
    (series : List (List SeriesPoint)) :
    sumAt field start series.flatten = (series.map (sumAt field start)).sum := by
  induction series with
  | nil => rfl
  | cons points rest ih =>
      rw [List.map_cons, List.sum_cons, ← ih]
      simp only [sumAt, List.flatten_cons, List.filter_append, List.map_append, List.sum_append]

theorem eq_mergeSeries {points : List SeriesPoint} {series : List (List SeriesPoint)}
    (increasing : points.Pairwise fun first second => first.bucketStart < second.bucketStart)
    (starts : ∀ start, (∃ point ∈ points, point.bucketStart.toNat = start) ↔
      ∃ point ∈ series.flatten, point.bucketStart.toNat = start)
    (packets : ∀ start, sumAt (·.packets) start points = sumAt (·.packets) start series.flatten)
    (bytes : ∀ start, sumAt (·.bytes) start points = sumAt (·.bytes) start series.flatten) :
    points = mergeSeries series := by
  have sorted : (points.map (·.bucketStart.toNat)).Pairwise (· < ·) :=
    List.pairwise_map.mpr (increasing.imp UInt64.lt_iff_toNat_lt.mp)
  have keys : groupKeys (·.bucketStart.toNat) series.flatten =
      points.map (·.bucketStart.toNat) := by
    apply groupKeys_eq sorted.sortedLT
    intro start
    rw [List.mem_map, starts]
  have alone : ∀ point ∈ points, ∀ field : SeriesPoint → UInt64,
      sumAt field point.bucketStart.toNat points = (field point).toNat := by
    intro point member field
    rw [sumAt, filter_key sorted.sortedLT.nodup member]
    simp
  rw [mergeSeries, groupBy, keys, List.map_map, List.map_map]
  refine ((List.map_congr_left ?_).trans (List.map_id points)).symm
  intro point member
  have packetsSum := (packets point.bucketStart.toNat).symm.trans (alone point member _)
  have bytesSum := (bytes point.bucketStart.toNat).symm.trans (alone point member _)
  simp only [sumAt] at packetsSum bytesSum
  simp only [Function.comp, packetsSum, bytesSum, UInt64.ofNat_toNat, id]

section Merging

variable {tables : ControlTables} {node : String} {items : List NodeInventoryItem}
  {part : NodeInventoryItem → List SeriesPoint} {points : List SeriesPoint} {first last : Int}

theorem ControlTables.window_at (tables : ControlTables) (node : String) (first last : Int)
    (start : Nat) :
    ∃ rows ⊆ tables.flowBuckets, ∀ capturePoint,
      ((tables.window node capturePoint first last).filter
        fun row => row.bucketStart == (start : Int)) =
          rows.filter (FlowRow.matching node capturePoint) := by
  refine ⟨(tables.flowBuckets.filter (FlowRow.within first last)).filter
    fun row => row.bucketStart == (start : Int), ?_, ?_⟩
  · exact fun row member => (List.mem_filter.mp (List.mem_filter.mp member).1).1
  · intro capturePoint
    rw [ControlTables.window, filter_swap]

theorem merge_sum (answers : tables.AnswersNodes items)
    (parts : ∀ item ∈ listedOf items node,
      Summarizes (tables.window node (some item.capturePoint) first last) (part item))
    (whole : Summarizes (tables.window node none first last) points)
    {column : FlowRow → Int} {field : SeriesPoint → UInt64} (sums : Sums column field)
    (start : Nat) :
    sumAt field start points = sumAt field start ((listedOf items node).map part).flatten := by
  obtain ⟨rows, stored, taken⟩ := tables.window_at node first last start
  have perItem : (((listedOf items node).map fun item => sumAt field start (part item)).map
      Nat.cast : List Int) = (listedOf items node).map fun item =>
        ((rows.filter (FlowRow.matching node (some item.capturePoint))).map column).sum := by
    rw [List.map_map]
    apply List.map_congr_left
    intro item member
    rw [← taken]
    exact (parts item member).sum_at sums start
  apply Int.ofNat_inj.mp
  calc (sumAt field start points : Int)
      = ((rows.filter (FlowRow.matching node none)).map column).sum := by
        rw [← taken]
        exact whole.sum_at sums start
    _ = ((listedOf items node).map fun item =>
          ((rows.filter (FlowRow.matching node (some item.capturePoint))).map column).sum).sum :=
        (answers.sum_listed column stored).symm
    _ = sumAt field start ((listedOf items node).map part).flatten := by
        rw [← perItem, ← Nat.cast_list_sum, sumAt_flatten, List.map_map]
        rfl

theorem merge_starts (answers : tables.AnswersNodes items)
    (parts : ∀ item ∈ listedOf items node,
      Summarizes (tables.window node (some item.capturePoint) first last) (part item))
    (whole : Summarizes (tables.window node none first last) points) (start : Nat) :
    (∃ point ∈ points, point.bucketStart.toNat = start) ↔
      ∃ point ∈ ((listedOf items node).map part).flatten, point.bucketStart.toNat = start := by
  rw [whole.mem_starts]
  constructor
  · rintro ⟨row, member, same⟩
    obtain ⟨held, matching⟩ := List.mem_filter.mp member
    have own := matching_node row matching
    obtain ⟨item, listed, point⟩ := List.mem_map.mp
      (answers.capturePoints_all row (List.mem_filter.mp held).1 own)
    have inside : row ∈ tables.window node (some item.capturePoint) first last :=
      List.mem_filter.mpr ⟨held, by simp [FlowRow.matching, own, point]⟩
    obtain ⟨found, belongs, starts⟩ := ((parts item listed).mem_starts start).mpr
      ⟨row, inside, same⟩
    exact ⟨found, List.mem_flatten.mpr ⟨_, List.mem_map_of_mem listed, belongs⟩, starts⟩
  · rintro ⟨point, member, same⟩
    obtain ⟨_, found, belongs⟩ := List.mem_flatten.mp member
    obtain ⟨item, listed, rfl⟩ := List.mem_map.mp found
    obtain ⟨row, inside, starts⟩ := ((parts item listed).mem_starts start).mp ⟨point, belongs, same⟩
    obtain ⟨held, matching⟩ := List.mem_filter.mp inside
    refine ⟨row, List.mem_filter.mpr ⟨held, ?_⟩, starts⟩
    simp [FlowRow.matching, matching_node row matching]

end Merging

/-- The answers about a node agree: a series splits at any bound and sums to the stats, the
inventory lists each place with flow rows once and its windows cut nothing off, and a node is the
sum of its capture points. -/
structure QueriesAgree (tables : ControlTables) (node : String) : Prop where
  increasing : ∀ capturePoint «from» «to» points,
    tables.AnswersSeries node capturePoint «from» «to» points →
      points.Pairwise fun first second => first.bucketStart < second.bucketStart
  splits : ∀ capturePoint (a b d : UInt64) whole low high, a ≤ b → b < d →
    tables.AnswersSeries node capturePoint (some a) (some d) whole →
    tables.AnswersSeries node capturePoint (some a) (some b) low →
    tables.AnswersSeries node capturePoint (some (b + 1)) (some d) high → whole = low ++ high
  totals : ∀ capturePoint points totals,
    tables.AnswersSeries node capturePoint none none points →
    tables.AnswersStats node capturePoint totals →
      (points.map (·.packets.toNat)).sum = totals.packets.toNat ∧
        (points.map (·.bytes.toNat)).sum = totals.bytes.toNat
  inventory : ∀ items, tables.AnswersNodes items →
    (items.map fun item => (item.nodeId, item.capturePoint)).Nodup ∧
      ∀ place, place ∈ items.map (fun item => (item.nodeId, item.capturePoint)) ↔
        ∃ row ∈ tables.flowBuckets, (row.nodeId, row.capturePoint) = place
  covered : ∀ items item, tables.AnswersNodes items → item ∈ listedOf items node →
    ∀ «from» «to» windowed whole, «from» ≤ item.firstBucketStart → item.lastBucketStart ≤ «to» →
      tables.AnswersSeries node (some item.capturePoint) (some «from») (some «to») windowed →
      tables.AnswersSeries node (some item.capturePoint) none none whole → windowed = whole
  shared : ∀ items primary compare item, tables.AnswersNodes items → item ∈ listedOf items node →
    item = primary ∨ some item = compare → ∀ windowed whole,
      tables.AnswersSeries node (some item.capturePoint) (some (sharedWindow primary compare).1)
        (some (sharedWindow primary compare).2) windowed →
      tables.AnswersSeries node (some item.capturePoint) none none whole → windowed = whole
  nodeTotals : ∀ items totals, tables.AnswersNodes items → tables.AnswersStats node none totals →
    ∀ part : NodeInventoryItem → ControlStats,
      (∀ item ∈ listedOf items node,
        tables.AnswersStats node (some item.capturePoint) (part item)) →
      totals.flowBuckets.toNat =
          ((listedOf items node).map fun item => (part item).flowBuckets.toNat).sum ∧
        totals.packets.toNat =
          ((listedOf items node).map fun item => (part item).packets.toNat).sum ∧
        totals.bytes.toNat = ((listedOf items node).map fun item => (part item).bytes.toNat).sum
  nodeSeries : ∀ items «from» «to» points, tables.AnswersNodes items →
    tables.AnswersSeries node none «from» «to» points →
    ∀ part : NodeInventoryItem → List SeriesPoint,
      (∀ item ∈ listedOf items node,
        tables.AnswersSeries node (some item.capturePoint) «from» «to» (part item)) →
      points = mergeSeries ((listedOf items node).map part)

section Agreement

variable {tables : ControlTables} {node : String} {capturePoint : Option String}

theorem window_filter {first last start stop : Int} {selected : FlowRow → Bool}
    (same : ∀ row, (selected row && row.within first last) = row.within start stop) :
    (tables.window node capturePoint first last).filter selected =
      tables.window node capturePoint start stop := by
  have inside : (tables.flowBuckets.filter (FlowRow.within first last)).filter selected =
      tables.flowBuckets.filter (FlowRow.within start stop) := by
    rw [List.filter_filter]
    exact List.filter_congr fun row _ => same row
  rw [ControlTables.window, filter_swap, inside, ControlTables.window]

theorem queries_split {a b d : UInt64} {whole low high : List SeriesPoint} (ab : a ≤ b)
    (bd : b < d) (wholeAnswer : tables.AnswersSeries node capturePoint (some a) (some d) whole)
    (lowAnswer : tables.AnswersSeries node capturePoint (some a) (some b) low)
    (highAnswer : tables.AnswersSeries node capturePoint (some (b + 1)) (some d) high) :
    whole = low ++ high := by
  rw [UInt64.le_iff_toNat_le] at ab
  rw [UInt64.lt_iff_toNat_lt] at bd
  have next : (b + 1).toNat = b.toNat + 1 := by
    have bound := d.toNat_lt
    rw [UInt64.toNat_add, UInt64.toNat_one]
    omega
  apply wholeAnswer.summarizes.unique
  apply Summarizes.append (b.toNat : Int) lowAnswer.summarizes highAnswer.summarizes
  · apply window_filter
    intro row
    rw [Bool.eq_iff_iff]
    simp only [FlowRow.within, Option.getD_some, Bool.and_eq_true, decide_eq_true_eq]
    omega
  · apply window_filter
    intro row
    rw [Bool.eq_iff_iff]
    simp only [FlowRow.within, Option.getD_some, next, Bool.and_eq_true, decide_eq_true_eq]
    omega

theorem window_all (unsigned : tables.Unsigned) :
    tables.window node capturePoint ((none : Option UInt64).getD 0).toNat
      ((none : Option UInt64).getD 0x7fffffffffffffff).toNat =
        tables.matching node capturePoint := by
  have last : (0x7fffffffffffffff : UInt64).toNat = 2 ^ 63 - 1 := by decide +kernel
  rw [ControlTables.window, ControlTables.matching]
  congr 1
  rw [List.filter_eq_self]
  intro row member
  obtain ⟨nonneg, below⟩ := (unsigned row member).bucketStart
  simp only [FlowRow.within, Option.getD_none, last, UInt64.toNat_zero, Bool.and_eq_true,
    decide_eq_true_eq]
  omega

theorem queries_totals (unsigned : tables.Unsigned) {points : List SeriesPoint}
    {totals : ControlStats} (series : tables.AnswersSeries node capturePoint none none points)
    (stats : tables.AnswersStats node capturePoint totals) :
    (points.map (·.packets.toNat)).sum = totals.packets.toNat ∧
      (points.map (·.bytes.toNat)).sum = totals.bytes.toNat := by
  have summarizes := series.summarizes
  rw [window_all unsigned] at summarizes
  obtain ⟨_, packets, bytes⟩ := stats.sums
  exact ⟨Int.ofNat_inj.mp ((summarizes.sum sums_packets).trans packets),
    Int.ofNat_inj.mp ((summarizes.sum sums_bytes).trans bytes)⟩

theorem queries_covered (unsigned : tables.Unsigned) {items : List NodeInventoryItem}
    {item : NodeInventoryItem} (answers : tables.AnswersNodes items)
    (listed : item ∈ listedOf items node) {«from» «to» : UInt64} {windowed whole : List SeriesPoint}
    (first : «from» ≤ item.firstBucketStart) (last : item.lastBucketStart ≤ «to»)
    (windowedAnswer : tables.AnswersSeries node (some item.capturePoint) (some «from») (some «to»)
      windowed)
    (wholeAnswer : tables.AnswersSeries node (some item.capturePoint) none none whole) :
    windowed = whole := by
  obtain ⟨member, own⟩ := List.mem_filter.mp listed
  rw [beq_iff_eq] at own
  subst own
  rw [UInt64.le_iff_toNat_le] at first last
  have summarizes := wholeAnswer.summarizes
  rw [window_all unsigned] at summarizes
  apply Summarizes.unique _ summarizes
  have same : tables.matching item.nodeId (some item.capturePoint) =
      tables.window item.nodeId (some item.capturePoint) «from».toNat «to».toNat := by
    rw [ControlTables.window, filter_swap, ControlTables.matching, eq_comm, List.filter_eq_self]
    intro row held
    obtain ⟨stored, matching⟩ := List.mem_filter.mp held
    have bounds := answers.covers member row stored matching
    simp only [FlowRow.within, Bool.and_eq_true, decide_eq_true_eq]
    omega
  rw [same]
  exact windowedAnswer.summarizes

theorem le_max_bucket (first second : UInt64) :
    first ≤ max first second ∧ second ≤ max first second := by
  have greater : max first second = if first ≤ second then second else first := rfl
  rw [greater]
  split
  · rename_i below
    exact ⟨below, UInt64.le_refl _⟩
  · rename_i above
    exact ⟨UInt64.le_refl _, UInt64.le_of_lt (UInt64.not_le.mp above)⟩

theorem queries_shared {primary item : NodeInventoryItem} {compare : Option NodeInventoryItem}
    (shown : item = primary ∨ some item = compare) :
    (sharedWindow primary compare).1 ≤ item.firstBucketStart ∧
      item.lastBucketStart ≤ (sharedWindow primary compare).2 := by
  cases compare with
  | none =>
      rcases shown with rfl | missing
      · exact ⟨UInt64.le_refl _, UInt64.le_refl _⟩
      · cases missing
  | some other =>
      rcases shown with rfl | same
      · exact ⟨Std.min_le_left, (le_max_bucket _ _).1⟩
      · cases same
        exact ⟨Std.min_le_right, (le_max_bucket _ _).2⟩

theorem queries_node_total {items : List NodeInventoryItem} (answers : tables.AnswersNodes items)
    (column : FlowRow → Int) {total : Nat} {part : NodeInventoryItem → Nat}
    (whole : ((tables.matching node none).map column).sum = total)
    (parts : ∀ item ∈ listedOf items node,
      ((tables.matching node (some item.capturePoint)).map column).sum = part item) :
    total = ((listedOf items node).map part).sum := by
  apply Int.ofNat_inj.mp
  rw [← whole, ControlTables.matching, ← answers.sum_listed column (List.Subset.refl _),
    Nat.cast_list_sum, List.map_map]
  exact congrArg List.sum (List.map_congr_left fun item listed => parts item listed)

end Agreement

/-- Whatever was ingested, the queries agree about every node. -/
theorem queries_agree (external : External) (calls : List IngestCall) (node : String) :
    QueriesAgree (ControlHistory.run external calls).tables node := by
  obtain ⟨ledger, represents, _⟩ := run_represented external calls
  have unsigned : (ControlHistory.run external calls).tables.Unsigned :=
    represents ▸ ledger.tables_unsigned
  constructor
  · intro capturePoint «from» «to» points series
    exact series.summarizes.increasing
  · intro capturePoint a b d whole low high
    exact queries_split
  · intro capturePoint points totals
    exact queries_totals unsigned
  · intro items answers
    exact ⟨answers.nodup, answers.mem_places⟩
  · intro items item answers listed «from» «to» windowed whole
    exact queries_covered unsigned answers listed
  · intro items primary compare item answers listed shown windowed whole
    exact queries_covered unsigned answers listed (queries_shared shown).1 (queries_shared shown).2
  · intro items totals answers whole part parts
    obtain ⟨flowBuckets, packets, bytes⟩ := whole.sums
    refine ⟨?_, ?_, ?_⟩
    · apply queries_node_total answers fun _ => 1
      · simp [flowBuckets]
      · intro item listed
        simp [(parts item listed).sums.1]
    · exact queries_node_total answers _ packets fun item listed => (parts item listed).sums.2.1
    · exact queries_node_total answers _ bytes fun item listed => (parts item listed).sums.2.2
  · intro items «from» «to» points answers whole part parts
    have summaries := fun item listed => (parts item listed).summarizes
    exact eq_mergeSeries whole.summarizes.increasing
      (merge_starts answers summaries whole.summarizes)
      (merge_sum answers summaries whole.summarizes sums_packets)
      (merge_sum answers summaries whole.summarizes sums_bytes)

end FlowObservability
