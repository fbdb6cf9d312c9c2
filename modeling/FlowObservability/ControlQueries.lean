import FlowObservability.ControlLedger

/-!
The answers of the nodes, stats and series queries depend on the rows of the tables
and not on their order.
-/

namespace FlowObservability

open Table Transaction

structure ControlTables.SameRows (first second : ControlTables) : Prop where
  ingestedBatches : first.ingestedBatches.Perm second.ingestedBatches
  flowBuckets : first.flowBuckets.Perm second.flowBuckets

structure FlowRow.Unsigned (row : FlowRow) : Prop where
  bucketStart : 0 ≤ row.bucketStart ∧ row.bucketStart < 2 ^ 63
  packets : 0 ≤ row.packets ∧ row.packets < 2 ^ 63
  bytes : 0 ≤ row.bytes ∧ row.bytes < 2 ^ 63

def ControlTables.Unsigned (tables : ControlTables) : Prop :=
  ∀ row ∈ tables.flowBuckets, row.Unsigned

theorem flowRow_unsigned (envelope : BatchEnvelope) {bucket : FlowBucket}
    (inRange : bucket.InRange) : (flowRow envelope bucket).Unsigned := by
  obtain ⟨bucketStart, packets, bytes⟩ := inRange
  exact ⟨⟨Int.natCast_nonneg _, Int.ofNat_lt.mpr bucketStart⟩,
    ⟨Int.natCast_nonneg _, Int.ofNat_lt.mpr packets⟩, ⟨Int.natCast_nonneg _, Int.ofNat_lt.mpr bytes⟩⟩

theorem Ledger.tables_unsigned (ledger : Ledger) : ledger.tables.Unsigned := by
  intro row member
  obtain ⟨envelope, stored, belongs⟩ := List.mem_flatMap.mp member
  obtain ⟨bucket, held, rfl⟩ := List.mem_map.mp belongs
  exact flowRow_unsigned envelope ((ledger.inRange envelope stored).buckets bucket held)

theorem Ledger.sameRows {first second : Ledger} (same : first.stored.Perm second.stored) :
    first.tables.SameRows second.tables :=
  ⟨same.map _, same.flatMap_right _⟩

section Aggregates

variable {rows others : List FlowRow}

theorem sumOf_perm {column : FlowRow → Int} (same : rows.Perm others)
    (nonneg : ∀ row ∈ rows, 0 ≤ column row) : sumOf (rows.map column) = sumOf (others.map column) := by
  have firstNonneg : ∀ value ∈ rows.map column, 0 ≤ value := by
    intro value member
    obtain ⟨row, belongs, rfl⟩ := List.mem_map.mp member
    exact nonneg row belongs
  have columns := same.map column
  have secondNonneg : ∀ value ∈ others.map column, 0 ≤ value :=
    fun value member => firstNonneg value (columns.mem_iff.mpr member)
  rw [sumOf_of_nonneg firstNonneg, sumOf_of_nonneg secondNonneg, columns.sum_eq]

theorem seriesPoint_perm (same : rows.Perm others) (unsigned : ∀ row ∈ rows, row.Unsigned)
    (bucketStart : Int) : seriesPoint bucketStart rows = seriesPoint bucketStart others := by
  rw [seriesPoint, seriesPoint, sumOf_perm same fun row member => (unsigned row member).packets.1,
    sumOf_perm same fun row member => (unsigned row member).bytes.1]

theorem min?_perm {values other : List Int} (same : values.Perm other) :
    values.min? = other.min? := by
  cases least : values.min? with
  | none =>
      rw [List.min?_eq_none_iff] at least
      simp [(least ▸ same).nil_eq.symm]
  | some value =>
      symm
      rw [List.min?_eq_some_iff] at least ⊢
      exact ⟨same.subset least.1, fun item member => least.2 item (same.mem_iff.mpr member)⟩

theorem max?_perm {values other : List Int} (same : values.Perm other) :
    values.max? = other.max? := by
  cases greatest : values.max? with
  | none =>
      rw [List.max?_eq_none_iff] at greatest
      simp [(greatest ▸ same).nil_eq.symm]
  | some value =>
      symm
      rw [List.max?_eq_some_iff] at greatest ⊢
      exact ⟨same.subset greatest.1, fun item member => greatest.2 item (same.mem_iff.mpr member)⟩

theorem nodeItem_perm (same : rows.Perm others) (nodeId capturePoint : String) :
    nodeItem nodeId capturePoint rows = nodeItem nodeId capturePoint others := by
  rw [nodeItem, nodeItem, min?_perm (same.map _), max?_perm (same.map _)]

end Aggregates

namespace ControlTables.SameRows

variable {first second : ControlTables}

theorem nodes (same : first.SameRows second) :
    ControlStore.nodes noFaults first = ControlStore.nodes noFaults second := by
  have items : ((groupBy FlowRow.place first.flowBuckets).mapM fun group =>
      nodeItem (ofLex group.1).1 (ofLex group.1).2 group.2) =
      (groupBy FlowRow.place second.flowBuckets).mapM fun group =>
        nodeItem (ofLex group.1).1 (ofLex group.1).2 group.2 := by
    apply mapM_of_forall₂
    apply (groupBy_perm same.flowBuckets).imp
    rintro ⟨place, rows⟩ ⟨_, others⟩ ⟨rfl, perm, _⟩
    exact nodeItem_perm perm _ _
  simp only [ControlStore.nodes, runs_noFaults, items]

theorem countBatches (same : first.SameRows second) (node : String) (capturePoint : Option String) :
    countBatches node capturePoint first = countBatches node capturePoint second := by
  cases capturePoint with
  | none => exact (same.ingestedBatches.filter _).length_eq
  | some capturePoint => exact ((same.flowBuckets.filter _).map _).dedup.length_eq

theorem stats (same : first.SameRows second) (unsigned : first.Unsigned) (node : String)
    (capturePoint : Option String) :
    ControlStore.stats noFaults node capturePoint first =
      ControlStore.stats noFaults node capturePoint second := by
  have rows := same.flowBuckets.filter (FlowRow.matching node capturePoint)
  have rowsUnsigned : ∀ row ∈ first.flowBuckets.filter (FlowRow.matching node capturePoint),
      row.Unsigned := fun row member => unsigned row (List.mem_filter.mp member).1
  unfold ControlStore.stats
  simp only [runs_noFaults, same.countBatches, rows.length_eq,
    sumOf_perm rows fun row member => (rowsUnsigned row member).packets.1,
    sumOf_perm rows fun row member => (rowsUnsigned row member).bytes.1]

theorem series (same : first.SameRows second) (unsigned : first.Unsigned) (node : String)
    (capturePoint : Option String) («from» «to» : Option UInt64) :
    ControlStore.series noFaults node capturePoint «from» «to» first =
      ControlStore.series noFaults node capturePoint «from» «to» second := by
  have points : ∀ selected : FlowRow → Bool,
      ((groupBy (·.bucketStart) (first.flowBuckets.filter selected)).mapM fun group =>
        seriesPoint group.1 group.2) =
      (groupBy (·.bucketStart) (second.flowBuckets.filter selected)).mapM fun group =>
        seriesPoint group.1 group.2 := by
    intro selected
    apply mapM_of_forall₂
    apply (groupBy_perm (same.flowBuckets.filter selected)).imp
    rintro ⟨bucketStart, rows⟩ ⟨_, others⟩ ⟨rfl, perm, members⟩
    exact seriesPoint_perm perm
      (fun row member => unsigned row (List.mem_filter.mp (members member)).1) bucketStart
  simp only [ControlStore.series, runs_noFaults, points]

end ControlTables.SameRows

/-! A query about one node reads the rows of that node. -/

def ControlTables.ofNode (tables : ControlTables) (node : String) : ControlTables where
  ingestedBatches := tables.ingestedBatches.filter fun row => row.nodeId == node
  flowBuckets := tables.flowBuckets.filter fun row => row.nodeId == node

section Nodes

variable {tables : ControlTables} {node : String}

theorem filter_of_matching {selected : FlowRow → Bool}
    (narrow : ∀ row, selected row = true → row.nodeId = node) (rows : List FlowRow) :
    (rows.filter fun row => row.nodeId == node).filter selected = rows.filter selected := by
  rw [List.filter_filter]
  apply List.filter_congr
  intro row _
  cases kept : selected row with
  | false => simp
  | true => simp [narrow row kept]

theorem matching_node {capturePoint : Option String} (row : FlowRow)
    (matching : FlowRow.matching node capturePoint row = true) : row.nodeId = node := by
  simp only [FlowRow.matching, Bool.and_eq_true, beq_iff_eq] at matching
  exact matching.1

theorem stats_ofNode (capturePoint : Option String) :
    ControlStore.stats noFaults node capturePoint (tables.ofNode node) =
      ControlStore.stats noFaults node capturePoint tables := by
  have batches : countBatches node capturePoint (tables.ofNode node) =
      countBatches node capturePoint tables := by
    cases capturePoint with
    | none => simp [countBatches, ControlTables.ofNode]
    | some capturePoint =>
        simp only [countBatches, ControlTables.ofNode, filter_of_matching matching_node]
  simp only [ControlStore.stats, runs_noFaults, batches]
  simp only [ControlTables.ofNode, filter_of_matching matching_node]

theorem series_ofNode (capturePoint : Option String) («from» «to» : Option UInt64) :
    ControlStore.series noFaults node capturePoint «from» «to» (tables.ofNode node) =
      ControlStore.series noFaults node capturePoint «from» «to» tables := by
  have rows : ∀ first last : Int,
      (tables.ofNode node).flowBuckets.filter (fun row =>
        FlowRow.matching node capturePoint row && row.within first last) =
      tables.flowBuckets.filter fun row =>
        FlowRow.matching node capturePoint row && row.within first last := by
    intro first last
    apply filter_of_matching
    intro row kept
    exact matching_node row (Bool.and_eq_true_iff.mp kept).1
  simp only [ControlStore.series, runs_noFaults, rows]

def nodeValue (group : (String ×ₗ String) × List FlowRow) : NodeInventoryItem where
  nodeId := (ofLex group.1).1
  capturePoint := (ofLex group.1).2
  firstBucketStart := UInt64.ofNat ((group.2.map FlowRow.bucketStart).min?.getD 0).toNat
  lastBucketStart := UInt64.ofNat ((group.2.map FlowRow.bucketStart).max?.getD 0).toNat

theorem unsigned_of_range {index : Nat} {value : Int} (range : 0 ≤ value ∧ value < 2 ^ 63) :
    unsigned index value = .ok (UInt64.ofNat value.toNat) := by
  have same : value = (value.toNat : Int) := (Int.toNat_of_nonneg range.1).symm
  rw [same]
  exact unsigned_of_nat (by omega)

theorem nodeItem_ok {place : String ×ₗ String} {rows : List FlowRow} (inhabited : rows ≠ [])
    (unsigned : ∀ row ∈ rows, row.Unsigned) :
    nodeItem (ofLex place).1 (ofLex place).2 rows = .ok (nodeValue (place, rows)) := by
  have range : ∀ value ∈ rows.map FlowRow.bucketStart, 0 ≤ value ∧ value < 2 ^ 63 := by
    intro value member
    obtain ⟨row, belongs, rfl⟩ := List.mem_map.mp member
    exact (unsigned row belongs).bucketStart
  have nonempty : rows.map FlowRow.bucketStart ≠ [] := by simpa using inhabited
  obtain ⟨least, isLeast⟩ := Option.isSome_iff_exists.mp (List.isSome_min?_of_ne_nil nonempty)
  obtain ⟨greatest, isGreatest⟩ := Option.isSome_iff_exists.mp (List.isSome_max?_of_ne_nil nonempty)
  have leastRange := range least (List.min?_mem isLeast)
  have greatestRange := range greatest (List.max?_mem isGreatest)
  simp only [nodeItem, nodeValue, isLeast, isGreatest, unsignedAggregate,
    unsigned_of_range leastRange, unsigned_of_range greatestRange, Option.getD_some]
  rfl

theorem nodes_ok (unsigned : tables.Unsigned) :
    ControlStore.nodes noFaults tables =
      .ok ((groupBy FlowRow.place tables.flowBuckets).map nodeValue) := by
  have items : ((groupBy FlowRow.place tables.flowBuckets).mapM fun group =>
      nodeItem (ofLex group.1).1 (ofLex group.1).2 group.2) =
      .ok ((groupBy FlowRow.place tables.flowBuckets).map nodeValue) := by
    apply mapM_of_ok
    rintro ⟨place, rows⟩ member
    obtain ⟨subset, ⟨row, belongs, _⟩, _⟩ := mem_groupBy member
    exact nodeItem_ok (List.ne_nil_of_mem belongs) fun other held => unsigned other (subset held)
  rw [ControlStore.nodes, runs_noFaults]
  simp only [items]
  rfl

theorem nodes_ofNode (unsigned : tables.Unsigned) :
    (ControlStore.nodes noFaults tables).map (List.filter fun item => item.nodeId == node) =
      ControlStore.nodes noFaults (tables.ofNode node) := by
  have own : (tables.ofNode node).Unsigned := fun row member =>
    unsigned row (List.mem_filter.mp member).1
  have groups := groupBy_filter FlowRow.place (fun place => (ofLex place).1 == node) tables.flowBuckets
  rw [nodes_ok unsigned, nodes_ok own, Except.map, List.filter_map]
  exact congrArg (fun groups => Except.ok (groups.map nodeValue)) groups

end Nodes

/-! The points of a series whose sums stay in the INTEGER range. -/

section Series

variable {tables : ControlTables} {node : String} {capturePoint : Option String}

def seriesValue (group : Int × List FlowRow) : SeriesPoint where
  bucketStart := UInt64.ofNat group.1.toNat
  packets := UInt64.ofNat (group.2.map FlowRow.packets).sum.toNat
  bytes := UInt64.ofNat (group.2.map FlowRow.bytes).sum.toNat

theorem sumOf_ok_of_nonneg {values : List Int} (nonneg : ∀ value ∈ values, 0 ≤ value)
    (fits : values.sum < 2 ^ 63) :
    sumOf values = .ok values.sum ∧ 0 ≤ values.sum ∧ values.sum < 2 ^ 63 := by
  rw [sumOf_of_nonneg nonneg, if_pos fits]
  exact ⟨rfl, List.sum_nonneg nonneg, fits⟩

theorem seriesPoint_ok {bucketStart : Int} {rows : List FlowRow}
    (range : 0 ≤ bucketStart ∧ bucketStart < 2 ^ 63) (unsigned : ∀ row ∈ rows, row.Unsigned)
    (packets : (rows.map (·.packets)).sum < 2 ^ 63) (bytes : (rows.map (·.bytes)).sum < 2 ^ 63) :
    seriesPoint bucketStart rows = .ok (seriesValue (bucketStart, rows)) := by
  have packetsNonneg : ∀ value ∈ rows.map (·.packets), 0 ≤ value := by
    intro value member
    obtain ⟨row, belongs, rfl⟩ := List.mem_map.mp member
    exact (unsigned row belongs).packets.1
  have bytesNonneg : ∀ value ∈ rows.map (·.bytes), 0 ≤ value := by
    intro value member
    obtain ⟨row, belongs, rfl⟩ := List.mem_map.mp member
    exact (unsigned row belongs).bytes.1
  obtain ⟨packetsSum, packetsRange⟩ := sumOf_ok_of_nonneg packetsNonneg packets
  obtain ⟨bytesSum, bytesRange⟩ := sumOf_ok_of_nonneg bytesNonneg bytes
  simp only [seriesPoint, packetsSum, bytesSum, ok_bind, unsigned_of_range range,
    unsigned_of_range packetsRange, unsigned_of_range bytesRange]
  rfl

def ControlTables.matching (tables : ControlTables) (node : String)
    (capturePoint : Option String) : List FlowRow :=
  tables.flowBuckets.filter (FlowRow.matching node capturePoint)

theorem series_ok (unsigned : tables.Unsigned)
    (fits : ∀ bucketStart group,
      (bucketStart, group) ∈ groupBy (·.bucketStart) (tables.matching node capturePoint) →
        (group.map (·.packets)).sum < 2 ^ 63 ∧ (group.map (·.bytes)).sum < 2 ^ 63) :
    ControlStore.series noFaults node capturePoint none none tables =
      .ok ((groupBy (·.bucketStart) (tables.matching node capturePoint)).map seriesValue) := by
  have inside : ∀ row ∈ tables.flowBuckets, (FlowRow.matching node capturePoint row &&
      row.within 0 (2 ^ 63 - 1)) = FlowRow.matching node capturePoint row := by
    intro row member
    obtain ⟨nonneg, below⟩ := (unsigned row member).bucketStart
    have within : row.within 0 (2 ^ 63 - 1) = true := by
      simp only [FlowRow.within, Bool.and_eq_true, decide_eq_true_eq]
      omega
    rw [within, Bool.and_true]
  have points : ((groupBy (·.bucketStart) (tables.matching node capturePoint)).mapM
      fun group => seriesPoint group.1 group.2) =
        .ok ((groupBy (·.bucketStart) (tables.matching node capturePoint)).map seriesValue) := by
    apply mapM_of_ok
    rintro ⟨bucketStart, group⟩ member
    obtain ⟨subset, ⟨row, belongs, same⟩, _⟩ := mem_groupBy member
    have rowsUnsigned : ∀ row ∈ group, row.Unsigned := fun row held =>
      unsigned row (List.mem_filter.mp (subset held)).1
    obtain ⟨packets, bytes⟩ := fits bucketStart group member
    exact seriesPoint_ok (same ▸ (rowsUnsigned row belongs).bucketStart) rowsUnsigned packets bytes
  have rows := List.filter_congr inside
  have order : ¬((0x7fffffffffffffff : UInt64) < 0) := by decide +kernel
  have first : integer (0 : UInt64).toNat "series from" = .ok 0 := rfl
  have last : integer (0x7fffffffffffffff : UInt64).toNat "series to" = .ok (2 ^ 63 - 1) := by
    decide +kernel
  unfold ControlStore.series
  rw [Option.getD_none, Option.getD_none]
  dsimp only
  rw [if_neg order, first, last]
  simp only [anyhow_ok, ok_bind, runs_noFaults, sqlite_ok]
  rw [rows, sqlite_eq_ok]
  exact points

end Series

end FlowObservability
