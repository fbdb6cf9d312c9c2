import FlowObservability.QueryAgreement

/-!
What stats and series make of the buckets the store has accepted. Each counter of a bucket fits
an INTEGER column, their sums need not.
-/

namespace FlowObservability

open Table Transaction

/-! The envelopes in the store, from the answers it gave. -/

def keepAnswer (kept : List BatchEnvelope)
    (answer : IngestCall × Except IngestError IngestStatus) : List BatchEnvelope :=
  let recent := kept.filter fun envelope => answer.1.cutoff ≤ envelope.body.createdAt.toNat
  match answer.2 with
  | .ok .inserted => recent ++ [answer.1.envelope]
  | .ok .duplicate => recent
  | .error _ => kept

/-- The envelopes answered `Inserted` that have not expired since. -/
def ControlHistory.retained (history : ControlHistory) : List BatchEnvelope :=
  history.answers.foldl keepAnswer []

def ControlHistory.Recorded (history : ControlHistory) : Prop :=
  ∃ ledger : Ledger, history.tables = ledger.tables ∧ ledger.stored = history.retained

section Recorded

variable {external : External} {history : ControlHistory}

theorem ControlHistory.retained_step (call : IngestCall) :
    (history.step external call).retained =
      keepAnswer history.retained (call, (call.outcome external history.tables).1) := by
  simp [ControlHistory.retained, ControlHistory.step]

theorem ControlHistory.Recorded.step (recorded : history.Recorded) (call : IngestCall) :
    (history.step external call).Recorded := by
  obtain ⟨ledger, tables, stored⟩ := recorded
  rcases call.outcome_refines external tables with ideal | ⟨error, _, broken⟩
  · refine ⟨(ledger.ingestAt external call.limits call.envelope call.now).2,
      congrArg Prod.snd ideal, ?_⟩
    rw [ControlHistory.retained_step, ideal]
    cases outcome : ledger.ingestAt external call.limits call.envelope call.now with
    | mk answer next =>
        cases answer with
        | error error =>
            rw [Ledger.ingestAt_error outcome]
            exact stored
        | ok status =>
            cases (Ledger.ingestAt_ok outcome).2.2 with
            | duplicate _ _ _ =>
                dsimp only [keepAnswer]
                rw [← stored]
                rfl
            | inserted free inRange =>
                dsimp only [keepAnswer]
                rw [Ledger.add_stored free inRange, ← stored]
                rfl
  · refine ⟨ledger, (congrArg Prod.snd broken).trans tables, ?_⟩
    rw [ControlHistory.retained_step, broken]
    exact stored

theorem run_recorded (external : External) (calls : List IngestCall) :
    (ControlHistory.run external calls).Recorded := by
  apply Runs.run_invariant
  · exact ⟨Ledger.empty, rfl, rfl⟩
  · exact fun history call _ recorded => recorded.step call

end Recorded

/-! The buckets a query reads, and the rows that hold them. -/

def heldBuckets (envelopes : List BatchEnvelope) : List (String × FlowBucket) :=
  envelopes.flatMap fun envelope => envelope.body.buckets.map fun bucket =>
    (envelope.body.nodeId, bucket)

def matchingBuckets (envelopes : List BatchEnvelope) (node : String)
    (capturePoint : Option String) : List FlowBucket :=
  ((heldBuckets envelopes).filter fun held => held.1 == node &&
    capturePoint.all fun point => held.2.key.capturePoint == point).map (·.2)

def bucketsWithin (buckets : List FlowBucket) (first last : UInt64) : List FlowBucket :=
  buckets.filter fun bucket =>
    decide (first ≤ bucket.bucketStart) && decide (bucket.bucketStart ≤ last)

def bucketsAt (buckets : List FlowBucket) (start : UInt64) : List FlowBucket :=
  buckets.filter fun bucket => bucket.bucketStart == start

theorem bucketsWithin_sublist (buckets : List FlowBucket) (first last : UInt64) :
    (bucketsWithin buckets first last).Sublist buckets :=
  List.filter_sublist

theorem bucketsAt_sublist (buckets : List FlowBucket) (start : UInt64) :
    (bucketsAt buckets start).Sublist buckets :=
  List.filter_sublist

def totalOf (field : FlowBucket → UInt64) (buckets : List FlowBucket) : Nat :=
  (buckets.map fun bucket => (field bucket).toNat).sum

structure Carries (row : FlowRow) (bucket : FlowBucket) : Prop where
  bucketStart : row.bucketStart = bucket.bucketStart.toNat
  packets : row.packets = bucket.packets.toNat
  bytes : row.bytes = bucket.bytes.toNat

structure Stores (column : FlowRow → Int) (field : FlowBucket → UInt64) : Prop where
  row : ∀ row bucket, Carries row bucket → column row = (field bucket).toNat

theorem stores_packets : Stores FlowRow.packets FlowBucket.packets :=
  ⟨fun _ _ carries => carries.packets⟩

theorem stores_bytes : Stores FlowRow.bytes FlowBucket.bytes :=
  ⟨fun _ _ carries => carries.bytes⟩

section Carrying

variable {rows : List FlowRow} {buckets : List FlowBucket}

theorem matching_carries (ledger : Ledger) (node : String) (capturePoint : Option String) :
    List.Forall₂ Carries (ledger.tables.matching node capturePoint)
      (matchingBuckets ledger.stored node capturePoint) := by
  have each : List.Forall₂ (fun row held => row.nodeId = held.1 ∧
      row.capturePoint = held.2.key.capturePoint ∧ Carries row held.2)
      ledger.tables.flowBuckets (heldBuckets ledger.stored) := by
    rw [Ledger.tables, heldBuckets]
    induction ledger.stored with
    | nil => exact .nil
    | cons envelope rest ih =>
        rw [List.flatMap_cons, List.flatMap_cons, flowRows]
        refine List.rel_append ?_ ih
        rw [List.forall₂_map_left_iff, List.forall₂_map_right_iff, List.forall₂_same]
        intro bucket _
        exact ⟨rfl, rfl, rfl, rfl, rfl⟩
  rw [ControlTables.matching, matchingBuckets, List.forall₂_map_right_iff]
  refine (List.rel_filter ?_ each).imp fun row held same => same.2.2
  rintro row held ⟨node, point, _⟩
  cases capturePoint <;> simp [FlowRow.matching, node, point]

theorem within_carries (carries : List.Forall₂ Carries rows buckets) (first last : UInt64) :
    List.Forall₂ Carries (rows.filter (FlowRow.within first.toNat last.toNat))
      (bucketsWithin buckets first last) := by
  refine List.rel_filter ?_ carries
  intro row bucket same
  simp [FlowRow.within, same.bucketStart, UInt64.le_iff_toNat_le]

theorem at_carries (carries : List.Forall₂ Carries rows buckets) (start : UInt64) :
    List.Forall₂ Carries (rows.filter fun row => row.bucketStart == (start.toNat : Int))
      (bucketsAt buckets start) := by
  refine List.rel_filter ?_ carries
  intro row bucket same
  simp [same.bucketStart, UInt64.toNat_inj]

theorem Stores.total {column : FlowRow → Int} {field : FlowBucket → UInt64}
    (stores : Stores column field) (carries : List.Forall₂ Carries rows buckets) :
    (rows.map column).sum = totalOf field buckets := by
  induction carries with
  | nil => rfl
  | cons same _ ih =>
      simp only [totalOf, List.map_cons, List.sum_cons, Nat.cast_add] at ih ⊢
      rw [ih, stores.row _ _ same]

end Carrying

/-! The answers and when there are any. -/

structure Summable (buckets : List FlowBucket) : Prop where
  packets : totalOf (·.packets) buckets < 2 ^ 63
  bytes : totalOf (·.bytes) buckets < 2 ^ 63

theorem Summable.sublist {buckets others : List FlowBucket} (summable : Summable buckets)
    (part : others.Sublist buckets) : Summable others := by
  have smaller : ∀ field, totalOf field others ≤ totalOf field buckets := fun field =>
    (part.map fun bucket => (field bucket).toNat).sum_le_sum fun _ _ => Nat.zero_le _
  exact ⟨(smaller _).trans_lt summable.packets, (smaller _).trans_lt summable.bytes⟩

structure StatsInRange (envelopes : List BatchEnvelope) (node : String)
    (capturePoint : Option String) : Prop where
  summable : Summable (matchingBuckets envelopes node capturePoint)
  buckets : (matchingBuckets envelopes node capturePoint).length < 2 ^ 63
  batches : capturePoint = none →
    (envelopes.filter fun envelope => envelope.body.nodeId == node).length < 2 ^ 63

def StatsExact (tables : ControlTables) (node : String) (capturePoint : Option String)
    (buckets : List FlowBucket) : Prop :=
  ∃ totals, ControlStore.stats noFaults node capturePoint tables = .ok totals ∧
    totals.packets.toNat = totalOf (·.packets) buckets ∧
    totals.bytes.toNat = totalOf (·.bytes) buckets

structure ExactPoints (points : List SeriesPoint) (buckets : List FlowBucket) : Prop where
  increasing : points.Pairwise fun first second => first.bucketStart < second.bucketStart
  starts : ∀ start, (∃ point ∈ points, point.bucketStart = start) ↔
    ∃ bucket ∈ buckets, bucket.bucketStart = start
  packets : ∀ point ∈ points,
    point.packets.toNat = totalOf (·.packets) (bucketsAt buckets point.bucketStart)
  bytes : ∀ point ∈ points,
    point.bytes.toNat = totalOf (·.bytes) (bucketsAt buckets point.bucketStart)

def SeriesExact (tables : ControlTables) (node : String) (capturePoint : Option String)
    («from» «to» : Option UInt64) (buckets : List FlowBucket) : Prop :=
  ∃ points, ControlStore.series noFaults node capturePoint «from» «to» tables = .ok points ∧
    ExactPoints points buckets

section Answers

variable {tables : ControlTables} {node : String} {capturePoint : Option String}
  {rows : List FlowRow} {buckets : List FlowBucket}

theorem Summarizes.exactPoints {points : List SeriesPoint} (summarizes : Summarizes rows points)
    (carries : List.Forall₂ Carries rows buckets) : ExactPoints points buckets := by
  have sums : ∀ {column : FlowRow → Int} {field : FlowBucket → UInt64}
      {total : SeriesPoint → UInt64}, Stores column field → Sums column total → ∀ point ∈ points,
        (total point).toNat = totalOf field (bucketsAt buckets point.bucketStart) := by
    intro column field total stores sums point member
    obtain ⟨⟨start, group⟩, grouped, pair⟩ := (forall₂_mem summarizes).2 point member
    obtain ⟨other, _, same⟩ := List.mem_map.mp grouped
    obtain ⟨rfl, rfl⟩ := Prod.mk.inj same
    have start : other = (point.bucketStart.toNat : Int) := pair.bucketStart
    subst start
    have summed := sums.group _ _ pair
    rw [stores.total (at_carries carries point.bucketStart)] at summed
    exact (Int.ofNat_inj.mp summed).symm
  constructor
  · exact summarizes.increasing
  · intro start
    have listed := summarizes.mem_starts start.toNat
    simp only [UInt64.toNat_inj] at listed
    rw [listed]
    constructor
    · rintro ⟨row, member, same⟩
      obtain ⟨bucket, belongs, carried⟩ := (forall₂_mem carries).1 row member
      refine ⟨bucket, belongs, UInt64.toNat_inj.mp (Int.ofNat_inj.mp ?_)⟩
      rw [← carried.bucketStart, same]
    · rintro ⟨bucket, member, same⟩
      obtain ⟨row, belongs, carried⟩ := (forall₂_mem carries).2 bucket member
      exact ⟨row, belongs, by rw [carried.bucketStart, same]⟩
  · exact sums stores_packets sums_packets
  · exact sums stores_bytes sums_bytes

theorem sum_lt_of_sumOf {values : List Int} (nonneg : ∀ value ∈ values, 0 ≤ value) {total : Int}
    (summed : sumOf values = .ok total) : values.sum < 2 ^ 63 := by
  rw [sumOf_of_nonneg nonneg] at summed
  by_contra large
  rw [if_neg large] at summed
  cases summed

theorem packets_nonneg (unsigned : ∀ row ∈ rows, row.Unsigned) :
    ∀ value ∈ rows.map FlowRow.packets, 0 ≤ value := by
  intro value member
  obtain ⟨row, belongs, rfl⟩ := List.mem_map.mp member
  exact (unsigned row belongs).packets.1

theorem bytes_nonneg (unsigned : ∀ row ∈ rows, row.Unsigned) :
    ∀ value ∈ rows.map FlowRow.bytes, 0 ≤ value := by
  intro value member
  obtain ⟨row, belongs, rfl⟩ := List.mem_map.mp member
  exact (unsigned row belongs).bytes.1

theorem seriesPoint_sums {bucketStart : Int} {point : SeriesPoint}
    (unsigned : ∀ row ∈ rows, row.Unsigned) (read : seriesPoint bucketStart rows = .ok point) :
    (rows.map FlowRow.packets).sum < 2 ^ 63 ∧ (rows.map FlowRow.bytes).sum < 2 ^ 63 := by
  obtain ⟨packets, packetsSum, read⟩ := bind_ok read
  obtain ⟨bytes, bytesSum, _⟩ := bind_ok read
  exact ⟨sum_lt_of_sumOf (packets_nonneg unsigned) packetsSum,
    sum_lt_of_sumOf (bytes_nonneg unsigned) bytesSum⟩

theorem series_eq_mapM {«from» «to» : Option UInt64}
    (order : «from».getD 0 ≤ «to».getD 0x7fffffffffffffff)
    (last : («to».getD 0x7fffffffffffffff).toNat < 2 ^ 63) :
    ControlStore.series noFaults node capturePoint «from» «to» tables =
      sqlite ((groupBy FlowRow.bucketStart (tables.window node capturePoint
        («from».getD 0).toNat («to».getD 0x7fffffffffffffff).toNat)).mapM
          fun group => seriesPoint group.1 group.2) := by
  have first : («from».getD 0).toNat < 2 ^ 63 :=
    Nat.lt_of_le_of_lt (UInt64.le_iff_toNat_le.mp order) last
  have ordered : ¬«to».getD 0x7fffffffffffffff < «from».getD 0 := UInt64.not_lt.mpr order
  unfold ControlStore.series
  dsimp only
  rw [if_neg ordered, integer_of_lt _ first, integer_of_lt _ last]
  simp only [anyhow_ok, ok_bind, runs_noFaults, sqlite_ok, ControlTables.window,
    List.filter_filter]

theorem summarizes_iff (unsigned : ∀ row ∈ rows, row.Unsigned)
    (carries : List.Forall₂ Carries rows buckets) :
    (∃ points, ((groupBy FlowRow.bucketStart rows).mapM fun group =>
      seriesPoint group.1 group.2) = .ok points) ↔
      ∀ start, Summable (bucketsAt buckets start) := by
  have packetsAt := fun start => stores_packets.total (at_carries carries start)
  have bytesAt := fun start => stores_bytes.total (at_carries carries start)
  constructor
  · rintro ⟨points, converted⟩ start
    by_cases found : (start.toNat : Int) ∈ groupKeys FlowRow.bucketStart rows
    · obtain ⟨point, _, read⟩ := (forall₂_mem (forall₂_of_mapM converted)).1 _
        (List.mem_map_of_mem found)
      obtain ⟨packets, bytes⟩ := seriesPoint_sums
        (fun row member => unsigned row (List.mem_filter.mp member).1) read
      rw [packetsAt] at packets
      rw [bytesAt] at bytes
      exact ⟨Int.ofNat_lt.mp packets, Int.ofNat_lt.mp bytes⟩
    · have nothing : bucketsAt buckets start = [] := by
        rw [bucketsAt, List.filter_eq_nil_iff]
        intro bucket member same
        obtain ⟨row, belongs, carried⟩ := (forall₂_mem carries).2 bucket member
        rw [beq_iff_eq] at same
        exact found (mem_groupKeys.mpr ⟨row, belongs, by rw [carried.bucketStart, same]⟩)
      rw [nothing]
      exact ⟨by decide, by decide⟩
  · intro summable
    refine ⟨(groupBy FlowRow.bucketStart rows).map seriesValue, mapM_of_ok ?_⟩
    rintro ⟨start, group⟩ grouped
    obtain ⟨other, found, same⟩ := List.mem_map.mp grouped
    obtain ⟨rfl, rfl⟩ := Prod.mk.inj same
    obtain ⟨row, belongs, rfl⟩ := mem_groupKeys.mp found
    obtain ⟨bucket, _, carried⟩ := (forall₂_mem carries).1 row belongs
    obtain ⟨packets, bytes⟩ := summable bucket.bucketStart
    apply seriesPoint_ok (unsigned row belongs).bucketStart
    · exact fun other member => unsigned other (List.mem_filter.mp member).1
    · rw [carried.bucketStart, packetsAt]
      exact Int.ofNat_lt.mpr packets
    · rw [carried.bucketStart, bytesAt]
      exact Int.ofNat_lt.mpr bytes

end Answers

section Ledgers

variable (ledger : Ledger) (node : String) (capturePoint : Option String)

theorem Ledger.matching_unsigned :
    ∀ row ∈ ledger.tables.matching node capturePoint, row.Unsigned :=
  fun row member => ledger.tables_unsigned row (List.mem_filter.mp member).1

theorem Ledger.countBatches_lt
    (buckets : (matchingBuckets ledger.stored node capturePoint).length < 2 ^ 63) :
    countBatches node capturePoint ledger.tables < 2 ^ 63 ↔ (capturePoint = none →
      (ledger.stored.filter fun envelope => envelope.body.nodeId == node).length < 2 ^ 63) := by
  cases capturePoint with
  | none =>
      have same : countBatches node none ledger.tables =
          (ledger.stored.filter fun envelope => envelope.body.nodeId == node).length := by
        rw [countBatches, Ledger.tables, List.filter_map, List.length_map]
        rfl
      simp [same]
  | some point =>
      have rows := (matching_carries ledger node (some point)).length_eq
      have few := List.dedup_sublist
        ((ledger.tables.matching node (some point)).map (·.batchId)) |>.length_le
      rw [List.length_map, rows] at few
      have below : countBatches node (some point) ledger.tables < 2 ^ 63 :=
        Nat.lt_of_le_of_lt few buckets
      constructor
      · intro _ missing
        cases missing
      · intro _
        exact below

theorem Ledger.stats_ok (inRange : StatsInRange ledger.stored node capturePoint) :
    ∃ totals, ControlStore.stats noFaults node capturePoint ledger.tables = .ok totals := by
  have carries := matching_carries ledger node capturePoint
  have unsignedRows := ledger.matching_unsigned node capturePoint
  have packets : ((ledger.tables.matching node capturePoint).map FlowRow.packets).sum < 2 ^ 63 := by
    rw [stores_packets.total carries]
    exact Int.ofNat_lt.mpr inRange.summable.packets
  have bytes : ((ledger.tables.matching node capturePoint).map FlowRow.bytes).sum < 2 ^ 63 := by
    rw [stores_bytes.total carries]
    exact Int.ofNat_lt.mpr inRange.summable.bytes
  obtain ⟨packetsSum, packetsRange⟩ := sumOf_ok_of_nonneg (packets_nonneg unsignedRows) packets
  obtain ⟨bytesSum, bytesRange⟩ := sumOf_ok_of_nonneg (bytes_nonneg unsignedRows) bytes
  have batches := (ledger.countBatches_lt node capturePoint inRange.buckets).mpr inRange.batches
  have length : (ledger.tables.matching node capturePoint).length < 2 ^ 63 := by
    rw [carries.length_eq]
    exact inRange.buckets
  rw [ControlTables.matching] at packetsSum bytesSum length packetsRange bytesRange
  refine ⟨{
      batches := UInt64.ofNat (countBatches node capturePoint ledger.tables)
      flowBuckets := UInt64.ofNat (ledger.tables.matching node capturePoint).length
      packets := UInt64.ofNat
        ((ledger.tables.matching node capturePoint).map FlowRow.packets).sum.toNat
      bytes := UInt64.ofNat
        ((ledger.tables.matching node capturePoint).map FlowRow.bytes).sum.toNat }, ?_⟩
  unfold ControlStore.stats
  simp only [runs_noFaults, sqlite_ok, ok_bind, packetsSum, bytesSum, unsigned_of_nat batches,
    unsigned_of_nat length, unsigned_of_range packetsRange, unsigned_of_range bytesRange]
  rfl

theorem Ledger.stats_inRange {totals : ControlStats}
    (answer : ControlStore.stats noFaults node capturePoint ledger.tables = .ok totals) :
    StatsInRange ledger.stored node capturePoint := by
  have carries := matching_carries ledger node capturePoint
  have unsignedRows := ledger.matching_unsigned node capturePoint
  obtain ⟨_, _, answer⟩ := bind_ok answer
  obtain ⟨packets, packetsSum, answer⟩ := bind_ok answer
  obtain ⟨bytes, bytesSum, answer⟩ := bind_ok answer
  obtain ⟨batches, batchesRead, answer⟩ := bind_ok answer
  obtain ⟨flowBuckets, counted, answer⟩ := bind_ok answer
  rw [sqlite_eq_ok] at packetsSum bytesSum batchesRead counted
  have packetsFit := sum_lt_of_sumOf (packets_nonneg unsignedRows) packetsSum
  have bytesFit := sum_lt_of_sumOf (bytes_nonneg unsignedRows) bytesSum
  obtain ⟨batchesSame, batchesBound⟩ := unsigned_ok batchesRead
  obtain ⟨rowsSame, rowsBound⟩ := unsigned_ok counted
  rw [stores_packets.total carries] at packetsFit
  rw [stores_bytes.total carries] at bytesFit
  have buckets : (matchingBuckets ledger.stored node capturePoint).length < 2 ^ 63 := by
    have length := carries.length_eq
    rw [ControlTables.matching] at length
    omega
  refine ⟨⟨Int.ofNat_lt.mp packetsFit, Int.ofNat_lt.mp bytesFit⟩, buckets, ?_⟩
  exact (ledger.countBatches_lt node capturePoint buckets).mp (by omega)

theorem Ledger.statsExact_iff :
    StatsExact ledger.tables node capturePoint (matchingBuckets ledger.stored node capturePoint) ↔
      StatsInRange ledger.stored node capturePoint := by
  constructor
  · rintro ⟨totals, answer, _⟩
    exact ledger.stats_inRange node capturePoint answer
  · intro inRange
    obtain ⟨totals, answer⟩ := ledger.stats_ok node capturePoint inRange
    have carries := matching_carries ledger node capturePoint
    have answers : ledger.tables.AnswersStats node capturePoint totals := ⟨noFaults, answer⟩
    obtain ⟨_, packets, bytes⟩ := answers.sums
    rw [stores_packets.total carries] at packets
    rw [stores_bytes.total carries] at bytes
    exact ⟨totals, answer, (Int.ofNat_inj.mp packets).symm, (Int.ofNat_inj.mp bytes).symm⟩

theorem Ledger.seriesExact_iff {«from» «to» : Option UInt64}
    (order : «from».getD 0 ≤ «to».getD 0x7fffffffffffffff)
    (last : («to».getD 0x7fffffffffffffff).toNat < 2 ^ 63) :
    let buckets := bucketsWithin (matchingBuckets ledger.stored node capturePoint)
      («from».getD 0) («to».getD 0x7fffffffffffffff)
    SeriesExact ledger.tables node capturePoint «from» «to» buckets ↔
      ∀ start, Summable (bucketsAt buckets start) := by
  intro buckets
  have carries : List.Forall₂ Carries (ledger.tables.window node capturePoint
      («from».getD 0).toNat («to».getD 0x7fffffffffffffff).toNat) buckets := by
    have within := within_carries (matching_carries ledger node capturePoint)
      («from».getD 0) («to».getD 0x7fffffffffffffff)
    rw [ControlTables.matching, filter_swap] at within
    exact within
  have unsignedRows : ∀ row ∈ ledger.tables.window node capturePoint
      («from».getD 0).toNat («to».getD 0x7fffffffffffffff).toNat, row.Unsigned := fun row member =>
    ledger.tables_unsigned row (List.mem_filter.mp (List.mem_filter.mp member).1).1
  have answered : ControlStore.series noFaults node capturePoint «from» «to» ledger.tables = _ :=
    series_eq_mapM order last
  constructor
  · rintro ⟨points, answer, _⟩
    rw [answered, sqlite_eq_ok] at answer
    exact (summarizes_iff unsignedRows carries).mp ⟨points, answer⟩
  · intro summable
    obtain ⟨points, converted⟩ := (summarizes_iff unsignedRows carries).mpr summable
    have answer : ControlStore.series noFaults node capturePoint «from» «to» ledger.tables =
        .ok points := by
      rw [answered, converted]
      rfl
    have answers : ledger.tables.AnswersSeries node capturePoint «from» «to» points :=
      ⟨noFaults, answer⟩
    exact ⟨points, answer, answers.summarizes.exactPoints carries⟩

end Ledgers

/-- After any run of ingests a query answers with the exact sums of the buckets it matches in
the envelopes retained, or fails, as those sums are in the INTEGER range or not. -/
theorem queries_exact_iff (external : External) (calls : List IngestCall) (node : String)
    (capturePoint : Option String) :
    let history := ControlHistory.run external calls
    let buckets := matchingBuckets history.retained node capturePoint
    (StatsExact history.tables node capturePoint buckets ↔
      StatsInRange history.retained node capturePoint) ∧
    ∀ «from» «to» : Option UInt64, «from».getD 0 ≤ «to».getD 0x7fffffffffffffff →
      («to».getD 0x7fffffffffffffff).toNat < 2 ^ 63 →
      (SeriesExact history.tables node capturePoint «from» «to»
          (bucketsWithin buckets («from».getD 0) («to».getD 0x7fffffffffffffff)) ↔
        ∀ start, Summable (bucketsAt
          (bucketsWithin buckets («from».getD 0) («to».getD 0x7fffffffffffffff)) start)) := by
  intro history buckets
  obtain ⟨ledger, tables, stored⟩ := run_recorded external calls
  have statsIff := ledger.statsExact_iff node capturePoint
  rw [← tables, stored] at statsIff
  refine ⟨statsIff, ?_⟩
  intro «from» «to» order last
  have seriesIff := ledger.seriesExact_iff node capturePoint order last
  rw [← tables, stored] at seriesIff
  exact seriesIff

/-! One batch with a bucket of 2 ^ 62 bytes at each of two capture points. -/

def heavyBucket (capturePoint : String) : FlowBucket where
  bucketStart := 100
  key := {
    capturePoint
    direction := .egress
    protocol := .tcp
    sourceIp := .v4 10 0 0 1
    destinationIp := .v4 1 1 1 1
    sourcePort := some 5
    destinationPort := none
  }
  packets := 1
  bytes := 0x4000000000000000

def heavyBatch (external : External) : BatchEnvelope :=
  BatchEnvelope.new external "s" "b" 0 100 [heavyBucket "p", heavyBucket "q"] {}

def heavyExternal : External := External.ofTable [
    ((heavyBatch (External.ofTable [] [])).body.toJson.render,
      ⟨#[183, 62, 119, 36, 22, 35, 148, 129, 75, 234, 221, 170, 195, 133, 38, 162, 69, 67, 5, 69,
      182, 64, 144, 56, 162, 147, 104, 183, 92, 40, 216, 38], rfl⟩)] []

def heavyDelivery : IngestCall := { envelope := heavyBatch heavyExternal, now := 100 }

/-- The batch is accepted, and its node has no stats and no series from then on. -/
theorem accepted_batch_not_queryable :
    let history := ControlHistory.run heavyExternal [heavyDelivery]
    history.answers.map (·.2) = [.ok .inserted] ∧
    ControlStore.stats noFaults "s" none history.tables =
      .error (.sqlite (.sqliteFailure .unknown)) ∧
    ControlStore.series noFaults "s" none (some 0) (some 200) history.tables =
      .error (.sqlite (.sqliteFailure .unknown)) := by
  decide +kernel

theorem queries_exact_iff_heavy :
    let history := ControlHistory.run heavyExternal [heavyDelivery]
    let buckets := matchingBuckets history.retained "s" (some "p")
    StatsExact history.tables "s" (some "p") buckets ∧
      SeriesExact history.tables "s" (some "p") (some 0) (some 200)
        (bucketsWithin buckets 0 200) := by
  intro history buckets
  have held : buckets = [heavyBucket "p"] := by decide +kernel
  obtain ⟨statsIff, seriesIff⟩ := queries_exact_iff heavyExternal [heavyDelivery] "s" (some "p")
  refine ⟨statsIff.mpr ⟨⟨?_, ?_⟩, ?_, by simp⟩, ?_⟩
  · decide +kernel
  · decide +kernel
  · decide +kernel
  · have window := seriesIff (some 0) (some 200)
    simp only [Option.getD_some] at window
    refine (window (by decide) (by decide)).mpr ?_
    intro start
    have all : Summable buckets := by
      rw [held]
      exact ⟨by decide +kernel, by decide +kernel⟩
    exact (all.sublist (bucketsWithin_sublist buckets 0 200)).sublist (bucketsAt_sublist _ start)

end FlowObservability
