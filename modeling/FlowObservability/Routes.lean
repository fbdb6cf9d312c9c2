import FlowObservability.ControlSums
import FlowObservability.Upload

/-!
The routes of the control plane over one store. A request that ingests is a call of the store;
every answer to a query is exact for the envelopes retained at its place in the run.
-/

namespace FlowObservability

open Runs Table Transaction

structure NodeQuery where
  node : String
  capturePoint : Option String := none
  deriving DecidableEq, Repr

structure SeriesQuery where
  node : String
  capturePoint : Option String := none
  «from» : Option UInt64 := none
  «to» : Option UInt64 := none
  deriving DecidableEq, Repr

/-- `json` says that an ingest has the JSON content type. A request is refused when it reaches no
handler: there is no such route, or an extractor cannot read its query. -/
inductive RouteRequest where
  | dashboard
  | ingest (json : Bool) (body : String)
  | nodes
  | stats (query : NodeQuery)
  | series (query : SeriesQuery)
  | refused
  deriving DecidableEq, Repr

/-- A failed query answers with its error as it displays. -/
inductive RouteResponse where
  | html
  | ingest (response : Response)
  | nodes (items : List NodeInventoryItem)
  | stats (totals : ControlStats)
  | series (points : List SeriesPoint)
  | failure (status : StatusCode) (error : AnyhowError)
  | refused
  deriving DecidableEq, Repr

def internal (error : AnyhowError) : RouteResponse := .failure .internalServerError error

def nodesRoute (faults : ControlFaults) (tables : ControlTables) : RouteResponse :=
  match ControlStore.nodes faults tables with
  | .ok items => .nodes items
  | .error error => internal error

def statsRoute (faults : ControlFaults) (query : NodeQuery) (tables : ControlTables) :
    RouteResponse :=
  match ControlStore.stats faults query.node query.capturePoint tables with
  | .ok totals => .stats totals
  | .error error => internal error

/-- Unlike the other queries, `series` blames the request for any of its errors. -/
def seriesRoute (faults : ControlFaults) (query : SeriesQuery) (tables : ControlTables) :
    RouteResponse :=
  match ControlStore.series faults query.node query.capturePoint query.from query.to tables with
  | .ok points => .series points
  | .error error => .failure .badRequest error

structure RouteCall where
  request : RouteRequest
  faults : ControlFaults := noFaults
  limits : ControlLimits := {}
  clock : Option UInt64 := none

/-- The handlers hold the lock on the store from their first statement to their last. -/
def controlRouter (external : External) (call : RouteCall) (tables : ControlTables) :
    RouteResponse × ControlTables :=
  match call.request with
  | .dashboard => (.html, tables)
  | .ingest false _ => (.ingest JsonRejection.missingJsonContentType.response, tables)
  | .ingest true body =>
    let outcome := ingestRoute external call.faults call.limits call.clock body tables
    (.ingest outcome.1, outcome.2)
  | .nodes => (nodesRoute call.faults tables, tables)
  | .stats query => (statsRoute call.faults query tables, tables)
  | .series query => (seriesRoute call.faults query tables, tables)
  | .refused => (.refused, tables)

structure ServerHistory where
  tables : ControlTables := {}
  responses : List RouteResponse := []

namespace ServerHistory

def step (external : External) (history : ServerHistory) (call : RouteCall) : ServerHistory where
  tables := (controlRouter external call history.tables).2
  responses := history.responses ++ [(controlRouter external call history.tables).1]

def run (external : External) (calls : List RouteCall) : ServerHistory :=
  Runs.run (step external) {} calls

end ServerHistory

def RouteCall.ingestCall (external : External) (call : RouteCall) : Option IngestCall :=
  match call.request with
  | .ingest true body =>
    if DEFAULT_BODY_LIMIT < body.utf8ByteSize then none
    else do
      let envelope ← external.fromSlice body
      let now ← call.clock
      return { faults := call.faults, limits := call.limits, envelope, now }
  | _ => none

section Serving

variable {external : External} {call : RouteCall} {tables : ControlTables}

theorem controlRouter_ingests {ingest : IngestCall} (made : call.ingestCall external = some ingest) :
    controlRouter external call tables =
      (.ingest (ingestResponse ingest.envelope (ingest.outcome external tables).1),
        (ingest.outcome external tables).2) := by
  unfold RouteCall.ingestCall at made
  unfold controlRouter
  split at made
  · rename_i body request
    split at made
    · cases made
    · rename_i short
      obtain ⟨envelope, decoded, made⟩ := Option.bind_eq_some_iff.mp made
      obtain ⟨now, clock, made⟩ := Option.bind_eq_some_iff.mp made
      cases made
      rw [request]
      simp only [ingestRoute, if_neg short, decoded, clock, ControlStore.ingest, unixSeconds,
        encoding]
      rfl
  · cases made

theorem controlRouter_reads (made : call.ingestCall external = none) :
    (controlRouter external call tables).2 = tables := by
  unfold RouteCall.ingestCall at made
  unfold controlRouter
  split
  · rfl
  · rfl
  · rename_i body request
    rw [request] at made
    dsimp only at made
    unfold ingestRoute
    split
    · rfl
    · rename_i short
      rw [if_neg short] at made
      cases decoded : external.fromSlice body with
      | none => rfl
      | some envelope =>
          cases clock : call.clock with
          | none => rfl
          | some now => simp [decoded, clock] at made
  · rfl
  · rfl
  · rfl
  · rfl

theorem server_tables (external : External) (calls : List RouteCall) :
    (ServerHistory.run external calls).tables =
      (ControlHistory.run external (calls.filterMap (RouteCall.ingestCall external))).tables := by
  induction calls using List.reverseRecOn with
  | nil => rfl
  | append_singleton calls call ih =>
      rw [ServerHistory.run, run_snoc, List.filterMap_append]
      rw [ServerHistory.run] at ih
      cases made : call.ingestCall external with
      | none =>
          have nothing : [call].filterMap (RouteCall.ingestCall external) = [] := by simp [made]
          rw [nothing, List.append_nil, ← ih]
          exact controlRouter_reads made
      | some ingest =>
          have single : [call].filterMap (RouteCall.ingestCall external) = [ingest] := by
            simp [made]
          rw [single, ControlHistory.run, run_snoc]
          rw [ControlHistory.run] at ih
          simp only [ServerHistory.step, ControlHistory.step, controlRouter_ingests made, ih]

inductive Answered (call : RouteCall) (tables : ControlTables) : RouteResponse → Prop
  | nodes {items} (request : call.request = .nodes)
      (answer : ControlStore.nodes call.faults tables = .ok items) :
      Answered call tables (.nodes items)
  | stats {totals} (query : NodeQuery) (request : call.request = .stats query)
      (answer : ControlStore.stats call.faults query.node query.capturePoint tables = .ok totals) :
      Answered call tables (.stats totals)
  | series {points} (query : SeriesQuery) (request : call.request = .series query)
      (answer : ControlStore.series call.faults query.node query.capturePoint query.from query.to
        tables = .ok points) : Answered call tables (.series points)
  | other {response} (nodes : ∀ items, response ≠ .nodes items)
      (stats : ∀ totals, response ≠ .stats totals) (series : ∀ points, response ≠ .series points) :
      Answered call tables response

theorem controlRouter_answered (external : External) (call : RouteCall) (tables : ControlTables) :
    Answered call tables (controlRouter external call tables).1 := by
  unfold controlRouter
  split
  · exact .other (by simp) (by simp) (by simp)
  · exact .other (by simp) (by simp) (by simp)
  · exact .other (by simp) (by simp) (by simp)
  · rename_i request
    unfold nodesRoute
    split
    · rename_i found
      exact .nodes request found
    · exact .other (by simp [internal]) (by simp [internal]) (by simp [internal])
  · rename_i query request
    unfold statsRoute
    split
    · rename_i found
      exact .stats query request found
    · exact .other (by simp [internal]) (by simp [internal]) (by simp [internal])
  · rename_i query request
    unfold seriesRoute
    split
    · rename_i found
      exact .series query request found
    · exact .other (by simp) (by simp) (by simp)
  · exact .other (by simp) (by simp) (by simp)

end Serving

/-! What the answers mean for the envelopes retained. -/

def countedEnvelopes (envelopes : List BatchEnvelope) (query : NodeQuery) : List BatchEnvelope :=
  envelopes.filter fun envelope => envelope.body.nodeId == query.node &&
    query.capturePoint.all fun point =>
      envelope.body.buckets.any fun bucket => bucket.key.capturePoint == point

structure StatsOf (envelopes : List BatchEnvelope) (query : NodeQuery) (totals : ControlStats) :
    Prop where
  batches : totals.batches.toNat = (countedEnvelopes envelopes query).length
  flowBuckets : totals.flowBuckets.toNat =
    (matchingBuckets envelopes query.node query.capturePoint).length
  packets : totals.packets.toNat =
    totalOf (·.packets) (matchingBuckets envelopes query.node query.capturePoint)
  bytes : totals.bytes.toNat =
    totalOf (·.bytes) (matchingBuckets envelopes query.node query.capturePoint)

def startsAt (envelopes : List BatchEnvelope) (node capturePoint : String) : Set UInt64 :=
  { start | ∃ bucket ∈ matchingBuckets envelopes node (some capturePoint),
    bucket.bucketStart = start }

structure NodesOf (envelopes : List BatchEnvelope) (items : List NodeInventoryItem) : Prop where
  sorted : items.Pairwise fun first second =>
    toLex (first.nodeId, first.capturePoint) < toLex (second.nodeId, second.capturePoint)
  listed : ∀ node capturePoint,
    (∃ item ∈ items, item.nodeId = node ∧ item.capturePoint = capturePoint) ↔
      (startsAt envelopes node capturePoint).Nonempty
  first : ∀ item ∈ items,
    IsLeast (startsAt envelopes item.nodeId item.capturePoint) item.firstBucketStart
  last : ∀ item ∈ items,
    IsGreatest (startsAt envelopes item.nodeId item.capturePoint) item.lastBucketStart

section Answers

variable {ledger : Ledger} {faults : ControlFaults}

theorem mem_startsAt {node capturePoint : String} {start : UInt64} :
    start ∈ startsAt ledger.stored node capturePoint ↔
      ∃ row ∈ ledger.tables.matching node (some capturePoint), row.bucketStart = start.toNat := by
  have pairs := forall₂_mem (matching_carries ledger node (some capturePoint))
  constructor
  · rintro ⟨bucket, member, rfl⟩
    obtain ⟨row, belongs, carried⟩ := pairs.2 bucket member
    exact ⟨row, belongs, carried.bucketStart⟩
  · rintro ⟨row, member, same⟩
    obtain ⟨bucket, belongs, carried⟩ := pairs.1 row member
    refine ⟨bucket, belongs, UInt64.toNat_inj.mp (Int.ofNat_inj.mp ?_)⟩
    rw [← carried.bucketStart, same]

theorem Ledger.nodesOf {items : List NodeInventoryItem}
    (answer : ControlStore.nodes faults ledger.tables = .ok items) :
    NodesOf ledger.stored items := by
  have answers : ledger.tables.AnswersNodes items := ⟨faults, answer⟩
  obtain ⟨_, _, answer⟩ := bind_ok answer
  rw [sqlite_eq_ok] at answer
  have bounds : ∀ item ∈ items,
      ((ledger.tables.matching item.nodeId (some item.capturePoint)).map
          FlowRow.bucketStart).min? = some (item.firstBucketStart.toNat : Int) ∧
        ((ledger.tables.matching item.nodeId (some item.capturePoint)).map
          FlowRow.bucketStart).max? = some (item.lastBucketStart.toNat : Int) := by
    intro item member
    obtain ⟨⟨place, rows⟩, grouped, read⟩ := mapM_mem answer member
    obtain ⟨first, firstRead, read⟩ := bind_ok read
    obtain ⟨last, lastRead, read⟩ := bind_ok read
    cases pure_ok read
    have same : rows = ledger.tables.matching (ofLex place).1 (some (ofLex place).2) := by
      refine groupBy_rows grouped fun row => ?_
      constructor
      · intro matched
        simp only [FlowRow.matching, Bool.and_eq_true, beq_iff_eq] at matched
        exact congrArg toLex (Prod.ext matched.1 matched.2)
      · intro same
        subst same
        simp [FlowRow.matching, FlowRow.place]
    rw [← same]
    exact ⟨unsignedAggregate_ok firstRead, unsignedAggregate_ok lastRead⟩
  have attained : ∀ {node capturePoint : String} {start : UInt64},
      ((start.toNat : Int) ∈ (ledger.tables.matching node (some capturePoint)).map
        FlowRow.bucketStart) ↔ start ∈ startsAt ledger.stored node capturePoint := by
    intro node capturePoint start
    rw [mem_startsAt, List.mem_map]
  have first : ∀ item ∈ items,
      IsLeast (startsAt ledger.stored item.nodeId item.capturePoint) item.firstBucketStart := by
    intro item member
    obtain ⟨least, below⟩ := List.min?_eq_some_iff.mp (bounds item member).1
    refine ⟨attained.mp least, fun start other => ?_⟩
    exact UInt64.le_iff_toNat_le.mpr (Int.ofNat_le.mp (below _ (attained.mpr other)))
  refine ⟨?_, ?_, first, ?_⟩
  · have sorted := (groupKeys_sorted FlowRow.place ledger.tables.flowBuckets).pairwise
    rw [← answers.places] at sorted
    exact List.pairwise_map.mp sorted
  · intro node capturePoint
    constructor
    · rintro ⟨item, member, rfl, rfl⟩
      exact ⟨_, (first item member).1⟩
    · rintro ⟨start, held⟩
      obtain ⟨row, member, _⟩ := mem_startsAt.mp held
      obtain ⟨stored, matching⟩ := List.mem_filter.mp member
      simp only [FlowRow.matching, Bool.and_eq_true, beq_iff_eq] at matching
      have listed := (answers.mem_places (node, capturePoint)).mpr
        ⟨row, stored, Prod.ext matching.1 matching.2⟩
      obtain ⟨item, belongs, place⟩ := List.mem_map.mp listed
      exact ⟨item, belongs, congrArg Prod.fst place, congrArg Prod.snd place⟩
  · intro item member
    obtain ⟨greatest, above⟩ := List.max?_eq_some_iff.mp (bounds item member).2
    refine ⟨attained.mp greatest, fun start other => ?_⟩
    exact UInt64.le_iff_toNat_le.mpr (Int.ofNat_le.mp (above _ (attained.mpr other)))

theorem mem_flowRows {envelope : BatchEnvelope} {row : FlowRow} :
    row ∈ flowRows envelope ↔ ∃ bucket ∈ envelope.body.buckets, flowRow envelope bucket = row :=
  List.mem_map

/-- With no capture point, stats counts a batch without buckets too. -/
theorem Ledger.countBatches_eq (ledger : Ledger) (query : NodeQuery) :
    countBatches query.node query.capturePoint ledger.tables =
      (countedEnvelopes ledger.stored query).length := by
  cases point : query.capturePoint with
  | none =>
      rw [countBatches, Ledger.tables, List.filter_map, List.length_map, countedEnvelopes, point]
      simp [ingestedBatch, Function.comp_def]
  | some point' =>
      have distinct : ((countedEnvelopes ledger.stored query).map (·.batchId)).Nodup :=
        ledger.batchIds.sublist (List.filter_sublist.map _)
      have length : (countedEnvelopes ledger.stored query).length =
          ((countedEnvelopes ledger.stored query).map (·.batchId)).length :=
        (List.length_map _).symm
      rw [countBatches, length]
      refine ((List.perm_ext_iff_of_nodup (List.nodup_dedup _) distinct).mpr ?_).length_eq
      intro batchId
      rw [List.mem_dedup, List.mem_map, List.mem_map]
      constructor
      · rintro ⟨row, member, rfl⟩
        obtain ⟨held, matching⟩ := List.mem_filter.mp member
        obtain ⟨envelope, stored, carried⟩ := List.mem_flatMap.mp held
        obtain ⟨bucket, belongs, rfl⟩ := mem_flowRows.mp carried
        refine ⟨envelope, List.mem_filter.mpr ⟨stored, ?_⟩, rfl⟩
        simp only [FlowRow.matching, flowRow, Bool.and_eq_true, beq_iff_eq] at matching
        simp only [point, Option.all_some, Bool.and_eq_true, beq_iff_eq, List.any_eq_true]
        exact ⟨matching.1, bucket, belongs, matching.2⟩
      · rintro ⟨envelope, counted, rfl⟩
        obtain ⟨stored, matching⟩ := List.mem_filter.mp counted
        simp only [point, Option.all_some, Bool.and_eq_true, beq_iff_eq, List.any_eq_true] at matching
        obtain ⟨node, bucket, belongs, same⟩ := matching
        refine ⟨flowRow envelope bucket, List.mem_filter.mpr ⟨?_, ?_⟩, rfl⟩
        · exact List.mem_flatMap.mpr ⟨envelope, stored, mem_flowRows.mpr ⟨bucket, belongs, rfl⟩⟩
        · simp [FlowRow.matching, flowRow, node, same]

theorem Ledger.statsOf {query : NodeQuery} {totals : ControlStats}
    (answer : ControlStore.stats faults query.node query.capturePoint ledger.tables = .ok totals) :
    StatsOf ledger.stored query totals := by
  have answers : ledger.tables.AnswersStats query.node query.capturePoint totals :=
    ⟨faults, answer⟩
  obtain ⟨flowBuckets, packets, bytes⟩ := answers.sums
  have carries := matching_carries ledger query.node query.capturePoint
  rw [stores_packets.total carries] at packets
  rw [stores_bytes.total carries] at bytes
  rw [carries.length_eq] at flowBuckets
  refine ⟨?_, flowBuckets.symm, (Int.ofNat_inj.mp packets).symm, (Int.ofNat_inj.mp bytes).symm⟩
  obtain ⟨_, _, answer⟩ := bind_ok answer
  obtain ⟨_, _, answer⟩ := bind_ok answer
  obtain ⟨_, _, answer⟩ := bind_ok answer
  obtain ⟨batches, counted, answer⟩ := bind_ok answer
  obtain ⟨_, _, answer⟩ := bind_ok answer
  obtain ⟨_, _, answer⟩ := bind_ok answer
  obtain ⟨_, _, answer⟩ := bind_ok answer
  cases pure_ok answer
  rw [sqlite_eq_ok] at counted
  rw [← ledger.countBatches_eq query]
  exact (Int.ofNat_inj.mp (unsigned_ok counted).1).symm

theorem Ledger.pointsOf (query : SeriesQuery) {points : List SeriesPoint}
    (answer : ControlStore.series faults query.node query.capturePoint query.from query.to
      ledger.tables = .ok points) :
    ExactPoints points (bucketsWithin
      (matchingBuckets ledger.stored query.node query.capturePoint) (query.from.getD 0)
      (query.to.getD 0x7fffffffffffffff)) := by
  have answers : ledger.tables.AnswersSeries query.node query.capturePoint query.from query.to
      points := ⟨faults, answer⟩
  have within := within_carries (matching_carries ledger query.node query.capturePoint)
    (query.from.getD 0) (query.to.getD 0x7fffffffffffffff)
  rw [ControlTables.matching, filter_swap] at within
  exact answers.summarizes.exactPoints within

end Answers

structure ServedFrom (envelopes : List BatchEnvelope) (call : RouteCall)
    (response : RouteResponse) : Prop where
  nodes : ∀ items, response = .nodes items → NodesOf envelopes items
  stats : ∀ totals, response = .stats totals →
    ∃ query, call.request = .stats query ∧ StatsOf envelopes query totals
  series : ∀ points, response = .series points →
    ∃ query, call.request = .series query ∧
      ExactPoints points (bucketsWithin
        (matchingBuckets envelopes query.node query.capturePoint) (query.from.getD 0)
        (query.to.getD 0x7fffffffffffffff))

theorem Ledger.servedFrom {ledger : Ledger} {call : RouteCall} {response : RouteResponse}
    (answered : Answered call ledger.tables response) : ServedFrom ledger.stored call response := by
  constructor
  · rintro items rfl
    cases answered with
    | nodes request answer => exact Ledger.nodesOf answer
    | other nodes stats series => exact absurd rfl (nodes items)
  · rintro totals rfl
    cases answered with
    | stats query request answer => exact ⟨query, request, Ledger.statsOf answer⟩
    | other nodes stats series => exact absurd rfl (stats totals)
  · rintro points rfl
    cases answered with
    | series query request answer => exact ⟨query, request, Ledger.pointsOf query answer⟩
    | other nodes stats series => exact absurd rfl (series points)

def ServerHistory.retained (external : External) (calls : List RouteCall) : List BatchEnvelope :=
  (ControlHistory.run external (calls.filterMap (RouteCall.ingestCall external))).retained

theorem server_servedFrom (external : External) (calls : List RouteCall) (call : RouteCall) :
    ServedFrom (ServerHistory.retained external calls) call
      (controlRouter external call (ServerHistory.run external calls).tables).1 := by
  obtain ⟨ledger, tables, stored⟩ :=
    run_recorded external (calls.filterMap (RouteCall.ingestCall external))
  rw [ServerHistory.retained, ← stored, server_tables external calls, tables]
  exact Ledger.servedFrom (controlRouter_answered external call _)

/-- In every run of requests, whatever the engine does: the tables are those of its ingests alone,
and each query that is answered is answered exactly for the envelopes retained at its place. -/
theorem served_reads_exact (external : External) (calls : List RouteCall) (call : RouteCall) :
    let tables := (ServerHistory.run external calls).tables
    tables = (ControlHistory.run external
        (calls.filterMap (RouteCall.ingestCall external))).tables ∧
      ServedFrom (ServerHistory.retained external calls) call
        (controlRouter external call tables).1 :=
  ⟨server_tables external calls, server_servedFrom external calls call⟩

end FlowObservability
