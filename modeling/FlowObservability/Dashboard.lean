import Mathlib.Logic.Function.Basic
import FlowObservability.Control
import FlowObservability.Library.Runs
import FlowObservability.Library.Words

/-!
The dashboard: one page, its variables and elements, and the asynchronous functions that await a
response. Between two awaits a function runs without interruption; responses come in any order,
and the user clicks and selects in between.
-/

namespace FlowObservability

open Runs Words

inductive Metric where
  | bytes
  | packets
  deriving DecidableEq, Repr

/-- An `option`. The value "" is `none`, any other is an index of the inventory. -/
structure SelectOption where
  value : Option Nat
  disabled : Bool := false
  deriving DecidableEq, Repr

structure SelectBox where
  options : List SelectOption := []
  value : Option Nat := none
  deriving DecidableEq, Repr

/-- Setting `value`. With no such option nothing is selected, and the value reads as "". -/
def SelectBox.choose (value : Option Nat) (box : SelectBox) : SelectBox :=
  { box with value := if box.options.any (·.value == value) then value else none }

def SelectBox.offers (value : Option Nat) (box : SelectBox) : Bool :=
  box.options.any fun option => option.value == value && !option.disabled

structure Badge where
  state : String
  text : String
  deriving DecidableEq, Repr

structure RefreshButton where
  disabled : Bool := false
  text : String := "Refresh"
  deriving DecidableEq, Repr

inductive TelemetryRequest where
  | stats (node capturePoint : String)
  | series (node capturePoint : String) (fromSecs toSecs : UInt64)
  deriving DecidableEq, Repr

/-- A JSON body, with its numbers as the page reads them. -/
inductive Telemetry where
  | stats (stats : ControlStats)
  | series (points : List SeriesPoint)
  deriving DecidableEq, Repr

structure Fetch where
  request : TelemetryRequest
  outcome : Option (Except String Telemetry) := none

def Fetch.fulfilled (fetch : Fetch) : Option (TelemetryRequest × Telemetry) :=
  match fetch.outcome with
  | some (.ok body) => some (fetch.request, body)
  | _ => none

def Fetch.rejected (fetch : Fetch) : Bool :=
  match fetch.outcome with
  | some (.error _) => true
  | _ => false

/-- The constants of `renderDashboardInternal` while it awaits `Promise.all`. -/
structure RenderTask where
  primaryItem : NodeInventoryItem
  compareItem : Option NodeInventoryItem
  fromSecs : UInt64
  toSecs : UInt64
  fetches : List Fetch

namespace RenderTask

def settle (index : Nat) (outcome : Except String Telemetry) (task : RenderTask) : RenderTask :=
  { task with fetches := task.fetches.modify index fun fetch =>
      { fetch with outcome := some outcome } }

def awaits (index : Nat) (task : RenderTask) : Bool :=
  task.fetches[index]?.any (·.outcome.isNone)

def outstanding (task : RenderTask) : Bool := task.fetches.any (·.outcome.isNone)

/-- `Promise.all` has been rejected, by the first of its promises that was. -/
def rejected (task : RenderTask) : Bool := task.fetches.any (·.rejected)

def fulfilled (task : RenderTask) : Option (List (TelemetryRequest × Telemetry)) :=
  task.fetches.mapM (·.fulfilled)

end RenderTask

inductive PageTask where
  | load (prevPrimaryItem prevCompareItem : Option NodeInventoryItem)
  | render (task : RenderTask)

inductive Section where
  | window
  | provenance
  | kpis
  | chart
  | table
  deriving DecidableEq, Repr

def Section.place : Section → Nat
  | .window => 0
  | .provenance => 1
  | .kpis => 2
  | .chart => 3
  | .table => 4

structure Rendering where
  gen : Nat
  primaryItem : NodeInventoryItem
  compareItem : Option NodeInventoryItem
  fromSecs : UInt64
  toSecs : UInt64
  metric : Metric
  responses : List (TelemetryRequest × Telemetry)
  deriving DecidableEq, Repr

/-- The state of the page. A task is kept under its generation until its fetches have ended. -/
structure Dashboard where
  inventory : List NodeInventoryItem := []
  currentMetric : Metric := .bytes
  currentRenderGen : Nat := 0
  lastChartState : Option Rendering := none
  statusBadge : Badge := { state := "", text := "Connecting..." }
  primarySelect : SelectBox := {}
  compareSelect : SelectBox := { options := [{ value := none }] }
  metricSelect : Metric := .bytes
  refreshBtn : RefreshButton := {}
  errorBanner : Option String := none
  emptyState : Bool := false
  dashboardContent : Bool := false
  view : Section → Option Rendering := fun _ => none
  tasks : Nat → Option PageTask := fun _ => none

def sameTarget (first second : NodeInventoryItem) : Bool :=
  first.nodeId == second.nodeId && first.capturePoint == second.capturePoint

def timeWindow (primaryItem : NodeInventoryItem) :
    Option NodeInventoryItem → UInt64 × UInt64
  | none => (primaryItem.firstBucketStart, primaryItem.lastBucketStart)
  | some compareItem => (min primaryItem.firstBucketStart compareItem.firstBucketStart,
      max primaryItem.lastBucketStart compareItem.lastBucketStart)

def telemetryRequests (primaryItem : NodeInventoryItem) (compareItem : Option NodeInventoryItem)
    (fromSecs toSecs : UInt64) : List TelemetryRequest :=
  (primaryItem :: compareItem.toList).flatMap fun item =>
    [.stats item.nodeId item.capturePoint, .series item.nodeId item.capturePoint fromSecs toSecs]

namespace Dashboard

def item (value : Option Nat) (page : Dashboard) : Option NodeInventoryItem :=
  value.bind fun index => page.inventory[index]?

def primaryItem (page : Dashboard) : Option NodeInventoryItem := page.item page.primarySelect.value

def compareItem (page : Dashboard) : Option NodeInventoryItem := page.item page.compareSelect.value

def setBadge (state text : String) (page : Dashboard) : Dashboard :=
  { page with statusBadge := { state, text } }

def setTask (gen : Nat) (task : Option PageTask) (page : Dashboard) : Dashboard :=
  { page with tasks := Function.update page.tasks gen task }

def lockRefresh (page : Dashboard) : Dashboard :=
  { page with refreshBtn := { disabled := true, text := "Refreshing…" } }

def unlockRefresh (page : Dashboard) : Dashboard :=
  { page with refreshBtn := { disabled := false, text := "Refresh" } }

def hideErrorBanner (page : Dashboard) : Dashboard := { page with errorBanner := none }

def showError (message : String) (page : Dashboard) : Dashboard :=
  { page.setBadge "error" "Error" with
    errorBanner := some message
    dashboardContent := false
    refreshBtn := { disabled := false, text := "Refresh" } }

def updateCompareOptionsDisabled (page : Dashboard) : Dashboard :=
  match page.primaryItem with
  | none => page
  | some primaryItem =>
    { page with compareSelect := { page.compareSelect with
        options := page.compareSelect.options.map fun option =>
          { option with disabled := (page.item option.value).any fun item =>
              sameTarget item primaryItem } } }

def nextGeneration (page : Dashboard) : Dashboard :=
  { page with currentRenderGen := page.currentRenderGen + 1 }.lockRefresh.setBadge
    "refreshing" "Refreshing…"

def renderDashboardInternal (gen : Nat) (page : Dashboard) : Dashboard :=
  let page := { page with currentMetric := page.metricSelect }
  match page.primaryItem with
  | none => if gen = page.currentRenderGen then page.unlockRefresh else page
  | some primaryItem =>
    let identical := page.compareItem.any fun compareItem => sameTarget compareItem primaryItem
    let compareItem := if identical then none else page.compareItem
    let page := if identical then { page with compareSelect := page.compareSelect.choose none }
      else page
    let page := page.updateCompareOptionsDisabled
    let (fromSecs, toSecs) := timeWindow primaryItem compareItem
    page.setTask gen (some (.render {
      primaryItem, compareItem, fromSecs, toSecs
      fetches := (telemetryRequests primaryItem compareItem fromSecs toSecs).map fun request =>
        { request } }))

def renderDashboard (page : Dashboard) : Dashboard :=
  page.nextGeneration.renderDashboardInternal page.nextGeneration.currentRenderGen

def loadInventory (page : Dashboard) : Dashboard :=
  page.nextGeneration.setTask page.nextGeneration.currentRenderGen
    (some (.load page.primaryItem page.compareItem))

def populateSelects (page : Dashboard) : Dashboard :=
  let options := (List.range page.inventory.length).map fun index => { value := some index }
  { page with
    primarySelect := { options }
    compareSelect := { options := { value := none } :: options } }

def findTarget (item : NodeInventoryItem) (page : Dashboard) : Option Nat :=
  page.inventory.findIdx? (sameTarget · item)

def reconcileSelection (prevPrimaryItem prevCompareItem : Option NodeInventoryItem)
    (page : Dashboard) : Dashboard :=
  let found := prevPrimaryItem.bind fun item => page.findTarget item
  let page := { page with primarySelect := page.primarySelect.choose (some (found.getD 0)) }
  let found := prevCompareItem.bind fun item => page.findTarget item
  let identical := (page.item found).any fun item => page.primaryItem.any (sameTarget item)
  { page with compareSelect := page.compareSelect.choose (if identical then none else found) }

/-- `loadInventory` from its `await` on. A body of `null` is `none`. -/
def inventoryLoaded (gen : Nat) (prevPrimaryItem prevCompareItem : Option NodeInventoryItem)
    (result : Except String (Option (List NodeInventoryItem))) (page : Dashboard) : Dashboard :=
  if gen ≠ page.currentRenderGen then page
  else
    match result with
    | .error message => page.showError ("Failed to load nodes: " ++ message)
    | .ok nextInventory =>
      let page := { page with inventory := nextInventory.getD [] }.hideErrorBanner
      if page.inventory = [] then
        { page with emptyState := true, dashboardContent := false }.setBadge "" "Empty"
          |>.unlockRefresh
      else
        let page := { page with emptyState := false }.populateSelects.reconcileSelection
          prevPrimaryItem prevCompareItem
        page.updateCompareOptionsDisabled.renderDashboardInternal gen

/-- The sections are written up to the last one, or up to the one that throws: a bucket start that
is no date. -/
def writeSections (rendering : Rendering) (thrown : Option (Section × String)) (page : Dashboard) :
    Dashboard :=
  let reached := fun part : Section => thrown.all fun last => part.place ≤ last.1.place
  { page with
    view := fun part => if reached part then some rendering else page.view part
    lastChartState := if reached .kpis then some rendering else page.lastChartState }

def telemetryFetched (gen : Nat) (task : RenderTask)
    (responses : List (TelemetryRequest × Telemetry)) (thrown : Option (Section × String))
    (page : Dashboard) : Dashboard :=
  if gen ≠ page.currentRenderGen then page
  else
    let rendering : Rendering := {
      gen
      primaryItem := task.primaryItem
      compareItem := task.compareItem
      fromSecs := task.fromSecs
      toSecs := task.toSecs
      metric := page.currentMetric
      responses }
    let page := (page.hideErrorBanner.setBadge "success" "Online").writeSections rendering thrown
    match thrown with
    | some (_, message) => page.showError ("Failed to fetch telemetry: " ++ message)
    | none => { page with dashboardContent := true }.unlockRefresh

def telemetryFailed (gen : Nat) (message : String) (page : Dashboard) : Dashboard :=
  if gen ≠ page.currentRenderGen then page
  else page.showError ("Failed to fetch telemetry: " ++ message)

def fetchEnded (gen : Nat) (task : RenderTask) (index : Nat) (outcome : Except String Telemetry)
    (thrown : Option (Section × String)) (page : Dashboard) : Dashboard :=
  let settled := task.settle index outcome
  let page := page.setTask gen (if settled.outstanding then some (.render settled) else none)
  if task.rejected then page
  else
    match outcome, settled.fulfilled with
    | .error message, _ => page.telemetryFailed gen message
    | .ok _, some responses => page.telemetryFetched gen settled responses thrown
    | .ok _, none => page

def primaryChanged (page : Dashboard) : Dashboard :=
  let identical := page.primaryItem.any fun item => page.compareItem.any (sameTarget item)
  let page := if identical then { page with compareSelect := page.compareSelect.choose none }
    else page
  page.updateCompareOptionsDisabled

def redrawChart (page : Dashboard) : Dashboard :=
  match page.lastChartState with
  | none => page
  | some rendering =>
    let redrawn := { rendering with metric := page.currentMetric }
    { page with view := Function.update page.view .chart (some redrawn) }

inductive Event where
  | refresh
  | primary (value : Option Nat)
  | compare (value : Option Nat)
  | metric (value : Metric)
  | resize
  | nodes (gen : Nat) (result : Except String (Option (List NodeInventoryItem)))
  | telemetry (gen index : Nat) (outcome : Except String Telemetry)
      (thrown : Option (Section × String))

/-- The page as the listener of a change hands it to `renderDashboard`. A user can only choose an
option that is there and enabled. -/
def changed (page : Dashboard) : Event → Option Dashboard
  | .primary value =>
    if page.primarySelect.offers value then
      some { page with primarySelect := page.primarySelect.choose value }.primaryChanged
    else none
  | .compare value =>
    if page.compareSelect.offers value then
      some { page with compareSelect := page.compareSelect.choose value }
    else none
  | .metric value => some { page with metricSelect := value }
  | _ => none

def step (page : Dashboard) (event : Event) : Dashboard :=
  match event with
  | .refresh => if page.refreshBtn.disabled then page else page.loadInventory
  | .resize => page.redrawChart
  | .nodes gen result =>
    match page.tasks gen with
    | some (.load prevPrimaryItem prevCompareItem) =>
      (page.setTask gen none).inventoryLoaded gen prevPrimaryItem prevCompareItem result
    | _ => page
  | .telemetry gen index outcome thrown =>
    match page.tasks gen with
    | some (.render task) =>
      if task.awaits index then page.fetchEnded gen task index outcome thrown else page
    | _ => page
  | change =>
    match page.changed change with
    | none => page
    | some page => page.renderDashboard

/-- The page as it is loaded. The browser may have kept the metric that was selected before. -/
def opened (metricSelect : Metric) : Dashboard := { metricSelect : Dashboard }.loadInventory

def run (metricSelect : Metric) (events : List Event) : Dashboard :=
  Runs.run step (opened metricSelect) events

end Dashboard

end FlowObservability
