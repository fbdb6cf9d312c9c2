import FlowObservability.Observed

/-!
The table of a page whose content is visible: the newest points of its two series, each exact at a
moment since the render began.
-/

namespace FlowObservability

open Runs Table

structure TableRow where
  bucketStart : UInt64
  nodeId : String
  capturePoint : String
  bytes : UInt64
  packets : UInt64
  isCompare : Bool
  deriving DecidableEq, Repr

def pointsOrEmpty : Option Telemetry → List SeriesPoint
  | some (.series points) => points
  | _ => []

def pointRows (item : NodeInventoryItem) (isCompare : Bool) (points : List SeriesPoint) :
    List TableRow :=
  points.map fun point => {
    bucketStart := point.bucketStart, nodeId := item.nodeId, capturePoint := item.capturePoint
    bytes := point.bytes, packets := point.packets, isCompare }

def tableRows (pPoints : List SeriesPoint) (pItem : NodeInventoryItem) (cPoints : List SeriesPoint)
    (cItem : Option NodeInventoryItem) : List TableRow :=
  pointRows pItem false pPoints ++ cItem.elim [] fun item => pointRows item true cPoints

/-- `renderTable` down to the rows it displays. The sort of an array is stable. -/
def renderTable (pSeries : Option Telemetry) (pItem : NodeInventoryItem)
    (cSeries : Option Telemetry) (cItem : Option NodeInventoryItem) : List TableRow :=
  let rows := tableRows (pointsOrEmpty pSeries) pItem (pointsOrEmpty cSeries) cItem
  (orderBy (fun row => OrderDual.toDual row.bucketStart) rows).take 50

/-- What a place of `Promise.all` was fulfilled with. Without a compare item the last two hold
`null`. -/
def Rendering.body (rendering : Rendering) (place : Nat) : Option Telemetry :=
  rendering.responses[place]?.map Prod.snd

def Rendering.table (rendering : Rendering) : List TableRow :=
  renderTable (rendering.body 1) rendering.primaryItem (rendering.body 3) rendering.compareItem

/-- The table shows these rows: newest first, at one time the primary target before the other, and
none that is missing from its fifty is newer. -/
structure ShowsNewest (rows shown : List TableRow) : Prop where
  length : shown.length = min 50 rows.length
  newestFirst : shown.Pairwise fun first second => second.bucketStart ≤ first.bucketStart
  primaryFirst : shown.Pairwise fun first second =>
    first.bucketStart = second.bucketStart → first.isCompare = true → second.isCompare = true
  others : ∃ others, (shown ++ others).Perm rows ∧
    ∀ row ∈ shown, ∀ other ∈ others, other.bucketStart ≤ row.bucketStart

theorem tableRows_primaryFirst (pPoints : List SeriesPoint) (pItem : NodeInventoryItem)
    (cPoints : List SeriesPoint) (cItem : Option NodeInventoryItem) :
    (tableRows pPoints pItem cPoints cItem).Pairwise fun first second =>
      first.isCompare = true → second.isCompare = true := by
  have primary : ∀ row ∈ pointRows pItem false pPoints, row.isCompare = false := by
    intro row member
    obtain ⟨_, _, rfl⟩ := List.mem_map.mp member
    rfl
  have compare : ∀ row ∈ cItem.elim [] (fun item => pointRows item true cPoints),
      row.isCompare = true := by
    intro row member
    cases cItem with
    | none => cases member
    | some item =>
        obtain ⟨_, _, rfl⟩ := List.mem_map.mp member
        rfl
  refine List.pairwise_append.mpr ⟨?_, ?_, fun _ _ second member _ => compare second member⟩
  · refine List.pairwise_of_forall_mem_list fun first member _ _ marked => ?_
    rw [primary first member] at marked
    cases marked
  · exact List.pairwise_of_forall_mem_list fun _ _ second member _ => compare second member

theorem renderTable_shows (pSeries : Option Telemetry) (pItem : NodeInventoryItem)
    (cSeries : Option Telemetry) (cItem : Option NodeInventoryItem) :
    ShowsNewest (tableRows (pointsOrEmpty pSeries) pItem (pointsOrEmpty cSeries) cItem)
      (renderTable pSeries pItem cSeries cItem) := by
  have given := tableRows_primaryFirst (pointsOrEmpty pSeries) pItem (pointsOrEmpty cSeries) cItem
  rw [renderTable]
  generalize tableRows (pointsOrEmpty pSeries) pItem (pointsOrEmpty cSeries) cItem = rows at given ⊢
  have leading := orderBy_take (fun row : TableRow => OrderDual.toDual row.bucketStart) 50 rows
  have stable := orderBy_stable (fun row : TableRow => OrderDual.toDual row.bucketStart) given
  refine ⟨leading.length, leading.ordered, ?_, leading.others⟩
  exact stable.sublist (List.take_sublist 50 _)

namespace Dashboard

variable {page other : Dashboard} {event : Event} {rendering : Rendering}

/-- One render has written every section. A resize may have drawn the chart in another metric. -/
structure Coherent (page : Dashboard) (rendering : Rendering) : Prop where
  sections : ∀ part, part ≠ .chart → page.view part = some rendering
  chart : ∃ metric, page.view .chart = some { rendering with metric }
  last : page.lastChartState = some rendering
  requests : rendering.responses.map Prod.fst = telemetryRequests rendering.primaryItem
    rendering.compareItem rendering.fromSecs rendering.toSecs

def Whole (page : Dashboard) : Prop :=
  page.dashboardContent = true → ∃ rendering, page.Coherent rendering

theorem Whole.congr (whole : page.Whole) (view : other.view = page.view)
    (last : other.lastChartState = page.lastChartState)
    (content : other.dashboardContent = page.dashboardContent) : other.Whole := by
  intro visible
  obtain ⟨rendering, coherent⟩ := whole (content ▸ visible)
  refine ⟨rendering, ?_, ?_, last.trans coherent.last, coherent.requests⟩
  · rw [view]
    exact coherent.sections
  · rw [view]
    exact coherent.chart

theorem Whole.hidden (content : page.dashboardContent = false) : page.Whole := by
  intro visible
  rw [content] at visible
  cases visible

theorem Whole.render (whole : page.Whole) (gen : Nat) :
    (page.renderDashboardInternal gen).Whole := by
  rcases page.renderDashboardInternal_eq gen with ⟨_, ended⟩ | ⟨_, _, _, begun⟩
  · rw [ended]
    exact whole.congr rfl rfl rfl
  · rw [begun]
    exact whole.congr rfl rfl rfl

theorem Whole.redrawn (whole : page.Whole) : page.redrawChart.Whole := by
  unfold redrawChart
  split
  · exact whole
  · rename_i last kept
    intro visible
    obtain ⟨rendering, coherent⟩ := whole visible
    cases kept.symm.trans coherent.last
    refine ⟨last, ?_, ⟨page.currentMetric, ?_⟩, kept, coherent.requests⟩
    · intro part other
      simp only [Function.update_of_ne other]
      exact coherent.sections part other
    · dsimp only
      rw [Function.update_self]

theorem Whole.loaded {next : Dashboard} (whole : page.Whole) (loaded : page.Loaded next) :
    next.Whole := by
  cases loaded with
  | failed message => exact Whole.hidden rfl
  | emptied => exact Whole.hidden rfl
  | rendered primary =>
      refine Whole.render ?_ _
      exact whole.congr rfl rfl rfl

theorem telemetryFetched_whole (page : Dashboard) {task : RenderTask}
    {responses : List (TelemetryRequest × Telemetry)} (thrown : Option (Section × String))
    (requests : responses.map Prod.fst = telemetryRequests task.primaryItem task.compareItem
      task.fromSecs task.toSecs) :
    (page.telemetryFetched page.currentRenderGen task responses thrown).Whole := by
  rw [telemetryFetched, if_neg (not_not.mpr rfl)]
  cases thrown with
  | none => exact fun _ => ⟨_, fun _ _ => rfl, ⟨_, rfl⟩, rfl, requests⟩
  | some last => exact Whole.hidden rfl

theorem Whole.fetched {next : Dashboard} {task : RenderTask} (whole : page.Whole)
    (selects : page.Matches task) (fetched : page.Fetched task next) : next.Whole := by
  cases fetched with
  | late rejected leftover => exact whole.congr rfl rfl rfl
  | awaiting accepted same => exact whole.congr rfl rfl rfl
  | failed message leftover => exact Whole.hidden rfl
  | written thrown same requests =>
      have matched := (same page).mpr selects
      exact telemetryFetched_whole (page.setTask page.currentRenderGen none) thrown
        (requests.trans matched.requests)

theorem Whole.step (whole : page.Whole) (tracks : page.Tracks) (event : Event) :
    (page.step event).Whole := by
  have moves := page.step_moves event
  generalize page.step event = next at moves
  cases moves with
  | idle quiet => exact whole
  | resized resize => exact whole.redrawn
  | refreshed refresh enabled => exact whole.congr rfl rfl rfl
  | changed change =>
      obtain ⟨primarySelect, compareSelect, metricSelect, rfl⟩ := changed_eq change
      refine Whole.render ?_ _
      exact whole.congr rfl rfl rfl
  | outdated quiet old waited => exact whole.congr rfl rfl rfl
  | loaded quiet waited loaded =>
      refine Whole.loaded ?_ loaded
      exact whole.congr rfl rfl rfl
  | fetched quiet waited fetched => exact whole.fetched (tracks.selected _ waited).1 fetched

end Dashboard

theorem Rendering.body_of_request {rendering : Rendering} {place : Nat} {request : TelemetryRequest}
    (requests : rendering.responses.map Prod.fst = telemetryRequests rendering.primaryItem
      rendering.compareItem rendering.fromSecs rendering.toSecs)
    (asked : (telemetryRequests rendering.primaryItem rendering.compareItem rendering.fromSecs
      rendering.toSecs)[place]? = some request) :
    ∃ body, rendering.body place = some body ∧ (request, body) ∈ rendering.responses := by
  rw [← requests, List.getElem?_map] at asked
  obtain ⟨⟨other, body⟩, found, rfl⟩ := Option.map_eq_some_iff.mp asked
  refine ⟨body, ?_, List.mem_of_getElem? found⟩
  rw [Rendering.body, found]
  rfl

theorem Rendering.compare_asked {rendering : Rendering} {item : NodeInventoryItem}
    (compare : rendering.compareItem = some item) :
    (telemetryRequests rendering.primaryItem rendering.compareItem rendering.fromSecs
      rendering.toSecs)[3]? = some (.series item.nodeId item.capturePoint rendering.fromSecs
        rendering.toSecs) := by
  rw [compare]
  rfl

namespace Site

variable {external : External} {browser : Browser} {site : Site}

theorem stepPage_page (action : PageAction) :
    (site.stepPage external browser action).page = site.page ∨
      ∃ event, (site.stepPage external browser action).page = site.page.step event := by
  cases action with
  | user event =>
      simp only [stepPage]
      split
      · exact .inr ⟨event, rfl⟩
      · exact .inl rfl
  | answerNodes gen service =>
      simp only [stepPage]
      split
      · exact .inl rfl
      · exact .inl rfl
  | answerTelemetry gen index service =>
      simp only [stepPage]
      split
      · split
        · exact .inl rfl
        · exact .inl rfl
      · exact .inl rfl
  | receive reply thrown =>
      simp only [stepPage]
      split
      · exact .inr ⟨.nodes _ _, rfl⟩
      · exact .inr ⟨.telemetry _ _ _ _, rfl⟩
      · exact .inl rfl

theorem stepPage_whole (action : PageAction) (tracks : site.page.Tracks)
    (whole : site.page.Whole) : (site.stepPage external browser action).page.Whole := by
  rcases site.stepPage_page action with kept | ⟨event, stepped⟩
  · rw [kept]
    exact whole
  · rw [stepped]
    exact whole.step tracks event

theorem run_whole (external : External) (browser : Browser) (metricSelect : Metric)
    (actions : List SiteAction) : (run external browser metricSelect actions).page.Whole := by
  induction actions using List.reverseRecOn with
  | nil => exact Dashboard.Whole.hidden rfl
  | append_singleton actions action ih =>
      have tracks := (run_observes external browser metricSelect actions).tracks
      rw [run, run_snoc]
      cases action with
      | request call => exact ih
      | page action => exact stepPage_whole action tracks ih

def PointsIn (external : External) (browser : Browser) (metricSelect : Metric)
    (actions : List SiteAction) (rendering : Rendering) (item : NodeInventoryItem)
    (points : List SeriesPoint) : Prop :=
  ∃ earlier later, actions = earlier ++ later ∧
    rendering.gen ≤ (run external browser metricSelect earlier).page.currentRenderGen ∧
    ExactPoints points (bucketsWithin
      (matchingBuckets (retained external earlier) item.nodeId (some item.capturePoint))
      (browser.write rendering.fromSecs) (browser.write rendering.toSecs))

theorem series_pointsIn {metricSelect : Metric} {actions : List SiteAction} {rendering : Rendering}
    (observes : Observes (AnsweredIn external browser metricSelect actions)
      (ListedIn external browser actions) (run external browser metricSelect actions))
    (coherent : (run external browser metricSelect actions).page.Coherent rendering) (place : Nat)
    {item : NodeInventoryItem}
    (asked : (telemetryRequests rendering.primaryItem rendering.compareItem rendering.fromSecs
      rendering.toSecs)[place]? = some (.series item.nodeId item.capturePoint rendering.fromSecs
        rendering.toSecs)) :
    ∃ points, pointsOrEmpty (rendering.body place) = points.map browser.point ∧
      PointsIn external browser metricSelect actions rendering item points := by
  obtain ⟨body, found, member⟩ := Rendering.body_of_request coherent.requests asked
  obtain ⟨earlier, later, same, began, reports⟩ :=
    observes.renderings rendering (.inl coherent.last) _ member
  cases reports with
  | @series node capturePoint fromSecs toSecs points exactly =>
      refine ⟨points, ?_, earlier, later, same, began, exactly⟩
      rw [found]
      rfl

end Site

/-- Whatever other clients ingest and however responses interleave: a page whose content is visible
shows one render in all its sections, and its table the newest fifty rows of the points of its
targets, exact for each target at a moment since the render's generation began. -/
theorem visible_table_newest (external : External) (browser : Browser) (metricSelect : Metric)
    (actions : List SiteAction)
    (visible : (Site.run external browser metricSelect actions).page.dashboardContent = true) :
    ∃ rendering, (Site.run external browser metricSelect actions).page.Coherent rendering ∧
      ∃ pPoints cPoints,
        Site.PointsIn external browser metricSelect actions rendering rendering.primaryItem
          pPoints ∧
        (∀ item ∈ rendering.compareItem,
          Site.PointsIn external browser metricSelect actions rendering item cPoints) ∧
        ShowsNewest (tableRows (pPoints.map browser.point) rendering.primaryItem
          (cPoints.map browser.point) rendering.compareItem) rendering.table := by
  obtain ⟨rendering, coherent⟩ :=
    Site.run_whole external browser metricSelect actions visible
  have observes := Site.run_observes external browser metricSelect actions
  obtain ⟨pPoints, pRead, pExact⟩ := Site.series_pointsIn observes coherent 1 rfl
  have shows := renderTable_shows (rendering.body 1) rendering.primaryItem (rendering.body 3)
    rendering.compareItem
  rw [pRead] at shows
  refine ⟨rendering, coherent, pPoints, ?_⟩
  cases compare : rendering.compareItem with
  | none =>
      refine ⟨[], pExact, by simp, ?_⟩
      rw [Rendering.table, compare]
      rw [compare] at shows
      exact shows
  | some item =>
      obtain ⟨cPoints, cRead, cExact⟩ :=
        Site.series_pointsIn observes coherent 3 (Rendering.compare_asked compare)
      rw [cRead, compare] at shows
      refine ⟨cPoints, pExact, ?_, ?_⟩
      · intro other member
        cases member
        exact cExact
      · rw [Rendering.table, compare]
        exact shows

/-! The page after one batch was ingested, with the node's first capture point selected. -/

def shownExternal : External :=
  { heavyExternal with fromSlice := fun _ => some (heavyBatch heavyExternal) }

def plainBrowser : Browser where
  read := id
  write := id
  text value := toString value.toNat
  encodeURIComponent := id

def shownPage : List SiteAction := [
  .request { request := .ingest true (uploadBody (heavyBatch heavyExternal)), clock := some 100 },
  .page (.answerNodes 1 (.served noFaults)),
  .page (.receive 0 none),
  .page (.answerTelemetry 1 1 (.served noFaults)),
  .page (.answerTelemetry 1 0 (.served noFaults)),
  .page (.receive 1 none),
  .page (.receive 2 none)]

theorem visible_table_newest_shownPage :
    ∃ rendering, (Site.run shownExternal plainBrowser .bytes shownPage).page.Coherent rendering ∧
      ∃ pPoints cPoints,
        Site.PointsIn shownExternal plainBrowser .bytes shownPage rendering rendering.primaryItem
          pPoints ∧
        (∀ item ∈ rendering.compareItem,
          Site.PointsIn shownExternal plainBrowser .bytes shownPage rendering item cPoints) ∧
        ShowsNewest (tableRows (pPoints.map plainBrowser.point) rendering.primaryItem
          (cPoints.map plainBrowser.point) rendering.compareItem) rendering.table :=
  visible_table_newest shownExternal plainBrowser .bytes shownPage (by decide +kernel)

end FlowObservability
