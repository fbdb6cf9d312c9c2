import FlowObservability.DashboardTable
import FlowObservability.FleetTotals

/-!
The whole deployment: the agents with their commands, the control plane, and a page that reads it.
A visible page never shows more than what entered at the capture points.
-/

namespace FlowObservability

open Runs

structure Deployment (Agent : Type) where
  fleet : Fleet Agent := {}
  page : Dashboard
  replies : List PageReply := []

inductive DeploymentAction (Agent : Type) where
  | fleet (action : FleetAction Agent)
  | page (action : PageAction)

def DeploymentAction.ofFleet {Agent : Type} : DeploymentAction Agent → Option (FleetAction Agent)
  | .fleet action => some action
  | .page _ => none

namespace Deployment

def site {Agent : Type} (deployment : Deployment Agent) : Site where
  page := deployment.page
  control := deployment.fleet.system.control
  replies := deployment.replies

variable {Agent : Type} [DecidableEq Agent] (external : External) (browser : Browser)

def step (deployment : Deployment Agent) : DeploymentAction Agent → Deployment Agent
  | .fleet action => { deployment with fleet := deployment.fleet.step external action }
  | .page action =>
    let site := deployment.site.stepPage external browser action
    { deployment with page := site.page, replies := site.replies }

def run (metricSelect : Metric) (actions : List (DeploymentAction Agent)) : Deployment Agent :=
  Runs.run (step external browser) { page := Dashboard.opened metricSelect } actions

theorem run_fleet (metricSelect : Metric) (actions : List (DeploymentAction Agent)) :
    (run external browser metricSelect actions).fleet =
      Fleet.run external (actions.filterMap DeploymentAction.ofFleet) := by
  induction actions using List.reverseRecOn with
  | nil => rfl
  | append_singleton actions action ih =>
      rw [run, run_snoc, List.filterMap_append]
      rw [run] at ih
      cases action with
      | fleet action =>
          have single : [DeploymentAction.fleet action].filterMap DeploymentAction.ofFleet =
            [action] := rfl
          rw [single, Fleet.run, run_snoc]
          rw [Fleet.run] at ih
          simp only [step, ih]
      | page action =>
          have nothing : [DeploymentAction.page action].filterMap
            DeploymentAction.ofFleet = ([] : List (FleetAction Agent)) := rfl
          rw [nothing, List.append_nil, ← ih]
          rfl

end Deployment

section Earlier

variable {Agent : Type} [DecidableEq Agent] {external : External}

theorem System.trusted_earlier {system : System Agent} {schedule : List (Action Agent)}
    (trusted : (Runs.run (System.step external) system schedule).Trusted external) :
    system.Trusted external := by
  induction schedule using List.reverseRecOn with
  | nil => exact trusted
  | append_singleton schedule action ih =>
      rw [run_snoc] at trusted
      exact ih (trusted.earlier (System.grows_step action))

theorem Fleet.trusted_earlier {fleet : Fleet Agent} (standing : fleet.Standing external)
    {action : FleetAction Agent}
    (trusted : (fleet.step external action).system.Trusted external) :
    fleet.system.Trusted external := by
  obtain ⟨_, schedule, same, _⟩ := (Fleet.step_advances external fleet action).realised standing
  rw [same] at trusted
  exact System.trusted_earlier trusted

end Earlier

/-- What one point says about packets accepted: there were some, and no fewer than it counts. -/
def Fleet.Caps {Agent : Type} [DecidableEq Agent] (fleet : Fleet Agent)
    (node capturePoint : String) (point : SeriesPoint) : Prop :=
  fleet.accepted node capturePoint (· == point.bucketStart) ≠ [] ∧
    Measures (· ≤ ·) point.packets point.bytes
      (fleet.accepted node capturePoint (· == point.bucketStart))

/-- A telemetry body, in the numbers the page reads, counts no more than captures have accepted. -/
inductive Browser.Capped {Agent : Type} [DecidableEq Agent] (browser : Browser)
    (fleet : Fleet Agent) : TelemetryRequest → Telemetry → Prop
  | stats {node capturePoint totals}
      (capped : capturePoint ≠ syntheticCapturePoint → Measures (· ≤ ·) totals.packets
        totals.bytes (fleet.accepted node capturePoint fun _ => true)) :
      Capped browser fleet (.stats node capturePoint) (.stats (browser.totals totals))
  | series {node capturePoint fromSecs toSecs} {points : List SeriesPoint}
      (capped : capturePoint ≠ syntheticCapturePoint →
        ∀ point ∈ points, fleet.Caps node capturePoint point) :
      Capped browser fleet (.series node capturePoint fromSecs toSecs)
        (.series (points.map browser.point))

namespace Deployment

variable {Agent : Type} [DecidableEq Agent] {external : External} {browser : Browser}
  {metricSelect : Metric} {actions : List (DeploymentAction Agent)}

theorem reply_capped {fleetActions : List (FleetAction Agent)}
    (trusted : (Fleet.run external fleetActions).system.Trusted external)
    {request : TelemetryRequest} {faults : ControlFaults} {body : Telemetry}
    (answer : Site.telemetryReply external browser
      (Fleet.run external fleetActions).system.control request (.served faults) = .ok body) :
    browser.Capped (Fleet.run external fleetActions) request body := by
  obtain ⟨ledger, stores⟩ := Fleet.run_stores external fleetActions trusted
  have attributed := Fleet.run_attributed external fleetActions
  rw [stores.control] at answer
  have served := Ledger.servedFrom (controlRouter_answered external
    { request := browser.route request, faults } ledger.tables)
  cases Site.telemetryReply_reports served answer with
  | stats exactly => exact .stats fun captured => stores.stats_le attributed captured exactly
  | series exactly =>
      exact .series fun captured point member => stores.point_le attributed captured exactly member

def AnsweredIn (external : External) (browser : Browser) (metricSelect : Metric)
    (actions : List (DeploymentAction Agent)) (gen : Nat) (request : TelemetryRequest)
    (body : Telemetry) : Prop :=
  ∃ earlier later, actions = earlier ++ later ∧
    gen ≤ (run external browser metricSelect earlier).page.currentRenderGen ∧
    browser.Capped (run external browser metricSelect earlier).fleet request body

theorem run_observes
    (trusted : (run external browser metricSelect actions).fleet.system.Trusted external) :
    Site.Observes (AnsweredIn external browser metricSelect actions) (fun _ => True)
        (run external browser metricSelect actions).site ∧
      (run external browser metricSelect actions).page.Whole := by
  induction actions using List.reverseRecOn with
  | nil => exact ⟨Site.observes_opened metricSelect, Dashboard.Whole.hidden rfl⟩
  | append_singleton actions action ih =>
      have standing := (Fleet.run_parts external
        (actions.filterMap DeploymentAction.ofFleet)).1
      rw [← run_fleet external browser metricSelect] at standing
      have before : (run external browser metricSelect actions).fleet.system.Trusted external := by
        rw [run, run_snoc] at trusted
        cases action with
        | fleet action => exact Fleet.trusted_earlier standing trusted
        | page action => exact trusted
      obtain ⟨observes, whole⟩ := ih before
      have still : Site.Observes (AnsweredIn external browser metricSelect (actions ++ [action]))
          (fun _ => True) (run external browser metricSelect actions).site := by
        refine observes.mono ?_ fun _ => id
        rintro gen request body ⟨earlier, later, rfl, began, capped⟩
        exact ⟨earlier, later ++ [action], by simp, began, capped⟩
      rw [run, run_snoc]
      cases action with
      | fleet action => exact ⟨still.withControl _, whole⟩
      | page action =>
          refine ⟨Site.Observes.withControl (still.stepPage external browser action ?_ ?_) _,
            Site.stepPage_whole action observes.tracks whole⟩
          · exact fun _ _ _ => trivial
          · intro gen current request faults body answer
            refine ⟨actions, [.page action], rfl, current, ?_⟩
            rw [run_fleet] at before ⊢
            have control : (run external browser metricSelect actions).site.control =
                (Fleet.run external
                  (actions.filterMap DeploymentAction.ofFleet)).system.control := by
              rw [← run_fleet external browser metricSelect]
              rfl
            rw [control] at answer
            exact reply_capped before answer

def RowCapped (external : External) (browser : Browser) (metricSelect : Metric)
    (actions : List (DeploymentAction Agent)) (gen : Nat) (row : TableRow) : Prop :=
  ∃ point : SeriesPoint, row.bucketStart = browser.read point.bucketStart ∧
    row.packets = browser.read point.packets ∧ row.bytes = browser.read point.bytes ∧
    ∃ earlier later, actions = earlier ++ later ∧
      gen ≤ (run external browser metricSelect earlier).page.currentRenderGen ∧
      (run external browser metricSelect earlier).fleet.Caps row.nodeId row.capturePoint point

theorem pointRows_capped {rendering : Rendering}
    (answered : ∀ response ∈ rendering.responses, AnsweredIn external browser metricSelect actions
      rendering.gen response.1 response.2)
    (requests : rendering.responses.map Prod.fst = telemetryRequests rendering.primaryItem
      rendering.compareItem rendering.fromSecs rendering.toSecs) (place : Nat)
    {item : NodeInventoryItem}
    (asked : (telemetryRequests rendering.primaryItem rendering.compareItem rendering.fromSecs
      rendering.toSecs)[place]? = some (.series item.nodeId item.capturePoint rendering.fromSecs
        rendering.toSecs)) {isCompare : Bool} {row : TableRow}
    (member : row ∈ pointRows item isCompare (pointsOrEmpty (rendering.body place)))
    (captured : row.capturePoint ≠ syntheticCapturePoint) :
    RowCapped external browser metricSelect actions rendering.gen row := by
  obtain ⟨body, found, replied⟩ := Rendering.body_of_request requests asked
  obtain ⟨earlier, later, same, began, capped⟩ := answered _ replied
  rw [found] at member
  obtain ⟨shown, read, rfl⟩ := List.mem_map.mp member
  cases capped with
  | series capped =>
      obtain ⟨point, belongs, rfl⟩ := List.mem_map.mp read
      exact ⟨point, rfl, rfl, rfl, earlier, later, same, began, capped captured point belongs⟩

end Deployment

/-- However the agents, the uploads, the network, crashes and the page interleave: a page whose
content is visible shows one render, of answers that count no more packets or bytes than captures
had accepted at a moment since it began, and no row of its table is for a bucket in which nothing
was accepted or counts more than was accepted in it. -/
theorem dashboard_never_overstates {Agent : Type} [DecidableEq Agent] (external : External)
    (browser : Browser) (metricSelect : Metric) (actions : List (DeploymentAction Agent))
    (trusted : (Deployment.run external browser metricSelect actions).fleet.system.Trusted external)
    (visible :
      (Deployment.run external browser metricSelect actions).page.dashboardContent = true) :
    ∃ rendering, (Deployment.run external browser metricSelect actions).page.Coherent rendering ∧
      (∀ response ∈ rendering.responses, Deployment.AnsweredIn external browser metricSelect actions
        rendering.gen response.1 response.2) ∧
      ∀ row ∈ rendering.table, row.capturePoint ≠ syntheticCapturePoint →
        Deployment.RowCapped external browser metricSelect actions rendering.gen row := by
  obtain ⟨observes, whole⟩ := Deployment.run_observes trusted
  obtain ⟨rendering, coherent⟩ := whole visible
  have answered := observes.renderings rendering (.inl coherent.last)
  refine ⟨rendering, coherent, answered, ?_⟩
  intro row member captured
  obtain ⟨others, same, _⟩ := (renderTable_shows (rendering.body 1) rendering.primaryItem
    (rendering.body 3) rendering.compareItem).others
  have listed := same.mem_iff.mp (List.mem_append_left others member)
  rcases List.mem_append.mp listed with primary | compare
  · exact Deployment.pointRows_capped answered coherent.requests 1 rfl primary captured
  · cases compared : rendering.compareItem with
    | none =>
        rw [compared] at compare
        cases compare
    | some item =>
        rw [compared] at compare
        exact Deployment.pointRows_capped answered coherent.requests 3
          (Rendering.compare_asked compared) compare captured

/-! The packet that is delivered by one pass, read by a page. -/

def readPing : List (DeploymentAction (Fin 1)) :=
  deliveredPing.map .fleet ++ [
    .page (.answerNodes 1 (.served noFaults)),
    .page (.receive 0 none),
    .page (.answerTelemetry 1 1 (.served noFaults)),
    .page (.answerTelemetry 1 0 (.served noFaults)),
    .page (.receive 1 none),
    .page (.receive 2 none)]

theorem readPing_trusted :
    (Deployment.run fleetExternal plainBrowser .bytes readPing).fleet.system.Trusted
      fleetExternal := by
  rw [Deployment.run_fleet]
  exact deliveredPing_trusted

theorem dashboard_never_overstates_readPing :
    ∃ rendering,
      (Deployment.run fleetExternal plainBrowser .bytes readPing).page.Coherent rendering ∧
      (∀ response ∈ rendering.responses, Deployment.AnsweredIn fleetExternal plainBrowser .bytes
        readPing rendering.gen response.1 response.2) ∧
      ∀ row ∈ rendering.table, row.capturePoint ≠ syntheticCapturePoint →
        Deployment.RowCapped fleetExternal plainBrowser .bytes readPing rendering.gen row :=
  dashboard_never_overstates fleetExternal plainBrowser .bytes readPing readPing_trusted
    (by decide +kernel)

end FlowObservability
