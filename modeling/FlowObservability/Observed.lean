import FlowObservability.DashboardSources
import FlowObservability.Routes

/-!
The dashboard in front of the control plane, with other clients ingesting in between: what a
section shows was true of the store at some moment after its generation began.
-/

namespace FlowObservability

open Runs

/-- What the browser makes of a number in a JSON text, of one it writes into a URL, and of a text
in a query string. -/
structure Browser where
  read : UInt64 → UInt64
  write : UInt64 → UInt64
  text : UInt64 → String
  encodeURIComponent : String → String

def StatusCode.number : StatusCode → String
  | .badRequest => "400"
  | .conflict => "409"
  | .payloadTooLarge => "413"
  | .unsupportedMediaType => "415"
  | .unprocessableEntity => "422"
  | .internalServerError => "500"
  | .insufficientStorage => "507"

namespace Browser

variable (browser : Browser)

def item (item : NodeInventoryItem) : NodeInventoryItem :=
  { item with
    firstBucketStart := browser.read item.firstBucketStart
    lastBucketStart := browser.read item.lastBucketStart }

def totals (totals : ControlStats) : ControlStats where
  batches := browser.read totals.batches
  flowBuckets := browser.read totals.flowBuckets
  packets := browser.read totals.packets
  bytes := browser.read totals.bytes

def point (point : SeriesPoint) : SeriesPoint where
  bucketStart := browser.read point.bucketStart
  packets := browser.read point.packets
  bytes := browser.read point.bytes

def url : TelemetryRequest → String
  | .stats node capturePoint =>
    "/v1/stats?node=" ++ browser.encodeURIComponent node ++ "&capture_point=" ++
      browser.encodeURIComponent capturePoint
  | .series node capturePoint fromSecs toSecs =>
    "/v1/series?node=" ++ browser.encodeURIComponent node ++ "&capture_point=" ++
      browser.encodeURIComponent capturePoint ++ "&from=" ++ browser.text fromSecs ++
      "&to=" ++ browser.text toSecs

def route : TelemetryRequest → RouteRequest
  | .stats node capturePoint => .stats { node, capturePoint := some capturePoint }
  | .series node capturePoint fromSecs toSecs =>
    .series { node, capturePoint := some capturePoint
              «from» := some (browser.write fromSecs), «to» := some (browser.write toSecs) }

def fetchError (status : StatusCode) (url : String) : String :=
  "HTTP " ++ status.number ++ " fetching " ++ url

def fetchNodes : RouteResponse → Except String (Option (List NodeInventoryItem))
  | .nodes items => .ok (some (items.map browser.item))
  | .failure status _ => .error (fetchError status "/v1/nodes")
  | _ => .error "Failed to fetch"

def fetchTelemetry (request : TelemetryRequest) : RouteResponse → Except String Telemetry
  | .stats totals => .ok (.stats (browser.totals totals))
  | .series points => .ok (.series (points.map browser.point))
  | .failure status _ => .error (fetchError status (browser.url request))
  | _ => .error "Failed to fetch"

end Browser

inductive PageReply where
  | nodes (gen : Nat) (result : Except String (Option (List NodeInventoryItem)))
  | telemetry (gen index : Nat) (request : TelemetryRequest) (outcome : Except String Telemetry)

/-- What becomes of a request of the page: it fails on the network, or it is handled. -/
inductive Service where
  | lost (message : String)
  | served (faults : ControlFaults)

structure Site where
  page : Dashboard
  control : ControlTables := {}
  replies : List PageReply := []

inductive PageAction where
  | user (event : Dashboard.Event)
  | answerNodes (gen : Nat) (service : Service)
  | answerTelemetry (gen index : Nat) (service : Service)
  | receive (reply : Nat) (thrown : Option (Section × String))

inductive SiteAction where
  | page (action : PageAction)
  | request (call : RouteCall)

def Dashboard.Event.byUser : Dashboard.Event → Bool
  | .nodes _ _ => false
  | .telemetry _ _ _ _ => false
  | _ => true

def SiteAction.call : SiteAction → Option RouteCall
  | .request call => some call
  | .page _ => none

namespace Site

variable (external : External) (browser : Browser)

def nodesReply (control : ControlTables) : Service → Except String (Option (List NodeInventoryItem))
  | .lost message => .error message
  | .served faults =>
    browser.fetchNodes (controlRouter external { request := .nodes, faults } control).1

def telemetryReply (control : ControlTables) (request : TelemetryRequest) :
    Service → Except String Telemetry
  | .lost message => .error message
  | .served faults =>
    browser.fetchTelemetry request
      (controlRouter external { request := browser.route request, faults } control).1

def stepPage (site : Site) : PageAction → Site
  | .user event => if event.byUser then { site with page := site.page.step event } else site
  | .answerNodes gen service =>
    match site.page.tasks gen with
    | some (.load _ _) =>
      { site with
        replies := site.replies ++
          [.nodes gen (nodesReply external browser site.control service)] }
    | _ => site
  | .answerTelemetry gen index service =>
    match site.page.tasks gen with
    | some (.render task) =>
      match task.fetches[index]? with
      | some fetch =>
        { site with
          replies := site.replies ++ [.telemetry gen index fetch.request
            (telemetryReply external browser site.control fetch.request service)] }
      | none => site
    | _ => site
  | .receive reply thrown =>
    match site.replies[reply]? with
    | some (.nodes gen result) => { site with page := site.page.step (.nodes gen result) }
    | some (.telemetry gen index _ outcome) =>
      { site with page := site.page.step (.telemetry gen index outcome thrown) }
    | none => site

def step (site : Site) : SiteAction → Site
  | .page action => site.stepPage external browser action
  | .request call => { site with control := (controlRouter external call site.control).2 }

def run (metricSelect : Metric) (actions : List SiteAction) : Site :=
  Runs.run (step external browser) { page := Dashboard.opened metricSelect } actions

/-- What the page holds has been answered: its inventory by `listed`, and every telemetry body, on
its way, settled or rendered, by `answered` for its generation and its request. -/
structure Observes (answered : Nat → TelemetryRequest → Telemetry → Prop)
    (listed : List NodeInventoryItem → Prop) (site : Site) : Prop where
  tracks : site.page.Tracks
  inventory : site.page.inventory = [] ∨ listed site.page.inventory
  nodes : ∀ gen items, .nodes gen (.ok items) ∈ site.replies → listed (items.getD [])
  telemetry : ∀ gen index request body,
    .telemetry gen index request (.ok body) ∈ site.replies → answered gen request body
  promises : ∀ gen index request outcome, .telemetry gen index request outcome ∈ site.replies →
    gen ≤ site.page.currentRenderGen ∧
      ∀ task, site.page.tasks gen = some task → ∃ render, task = .render render ∧
        ∀ fetch, render.fetches[index]? = some fetch → fetch.request = request
  fetches : ∀ gen task, site.page.tasks gen = some (.render task) → ∀ fetch ∈ task.fetches,
    ∀ body, fetch.outcome = some (.ok body) → answered gen fetch.request body
  renderings : ∀ rendering, site.page.Rendered rendering → ∀ response ∈ rendering.responses,
    answered rendering.gen response.1 response.2

section Steps

variable {external : External} {browser : Browser} {site : Site}
  {answered later : Nat → TelemetryRequest → Telemetry → Prop}
  {listed laterListed : List NodeInventoryItem → Prop}

theorem Observes.mono (observes : Observes answered listed site)
    (answers : ∀ gen request body, answered gen request body → later gen request body)
    (lists : ∀ items, listed items → laterListed items) : Observes later laterListed site where
  tracks := observes.tracks
  inventory := observes.inventory.imp_right (lists _)
  nodes gen items member := lists _ (observes.nodes gen items member)
  telemetry gen index request body member :=
    answers _ _ _ (observes.telemetry gen index request body member)
  promises := observes.promises
  fetches gen task found fetch member body settled :=
    answers _ _ _ (observes.fetches gen task found fetch member body settled)
  renderings rendering rendered response member :=
    answers _ _ _ (observes.renderings rendering rendered response member)

theorem Observes.withControl (observes : Observes answered listed site) (control : ControlTables) :
    Observes answered listed { site with control } :=
  ⟨observes.tracks, observes.inventory, observes.nodes, observes.telemetry, observes.promises,
    observes.fetches, observes.renderings⟩

theorem observes_opened (metricSelect : Metric) :
    Observes answered listed { page := Dashboard.opened metricSelect } := by
  refine ⟨Dashboard.run_tracks metricSelect [], .inl rfl, by simp, by simp, by simp, ?_, ?_⟩
  · intro gen task found
    have opened : (Dashboard.setTask 1 (some (.load none none)) (Dashboard.nextGeneration
      { metricSelect : Dashboard })).tasks gen = some (.render task) := found
    rw [Dashboard.setTask_tasks] at opened
    split at opened
    · cases opened
    · cases opened
  · rintro rendering (last | ⟨part, shown⟩)
    · cases last
    · cases shown

theorem settle_request {task : RenderTask} {index place : Nat} {outcome : Except String Telemetry}
    {fetch : Fetch} (found : (task.settle index outcome).fetches[place]? = some fetch) :
    ∃ before, task.fetches[place]? = some before ∧ before.request = fetch.request := by
  have requests := congrArg (·[place]?) (RenderTask.settle_requests task index outcome)
  simp only [List.getElem?_map, found, Option.map_some] at requests
  obtain ⟨before, same, request⟩ := Option.map_eq_some_iff.mp requests.symm
  exact ⟨before, same, request⟩

theorem settle_answered {task : RenderTask} {index : Nat} {outcome : Except String Telemetry}
    {gen : Nat} (before : ∀ fetch ∈ task.fetches, ∀ body, fetch.outcome = some (.ok body) →
      answered gen fetch.request body)
    (arrived : ∀ fetch, task.fetches[index]? = some fetch → ∀ body, outcome = .ok body →
      answered gen fetch.request body) :
    ∀ fetch ∈ (task.settle index outcome).fetches, ∀ body, fetch.outcome = some (.ok body) →
      answered gen fetch.request body := by
  intro fetch member body settled
  obtain ⟨place, found⟩ := List.mem_iff_getElem?.mp member
  simp only [RenderTask.settle, List.getElem?_modify] at found
  obtain ⟨old, held, same⟩ := Option.map_eq_some_iff.mp found
  split at same
  · rename_i here
    subst here same
    exact arrived old held body (Option.some.inj settled)
  · subst same
    exact before old (List.mem_of_getElem? held) body settled

theorem Observes.page_step (observes : Observes answered listed site) (event : Dashboard.Event)
    (nodes : ∀ gen items, event = .nodes gen (.ok items) → listed (items.getD []))
    (telemetry : ∀ gen index outcome thrown, event = .telemetry gen index outcome thrown →
      ∀ task fetch, site.page.tasks gen = some (.render task) →
        task.fetches[index]? = some fetch → ∀ body, outcome = .ok body →
          answered gen fetch.request body) :
    Observes answered listed { site with page := site.page.step event } := by
  have grown := site.page.step_gen event
  have settled : ∀ gen task index outcome thrown, event = .telemetry gen index outcome thrown →
      site.page.tasks gen = some (.render task) →
      ∀ fetch ∈ (task.settle index outcome).fetches, ∀ body, fetch.outcome = some (.ok body) →
        answered gen fetch.request body := fun gen task index outcome thrown arrived waited =>
    settle_answered (observes.fetches gen task waited) fun fetch found =>
      telemetry gen index outcome thrown arrived task fetch waited found
  constructor
  · exact observes.tracks.step event
  · rcases site.page.step_stocked event with kept | ⟨gen, items, _, _, rfl, _, loaded⟩
    · simp only [kept]
      exact observes.inventory
    · simp only [loaded]
      exact .inr (nodes gen items rfl)
  · exact observes.nodes
  · exact observes.telemetry
  · intro gen index request outcome member
    obtain ⟨current, promised⟩ := observes.promises gen index request outcome member
    refine ⟨current.trans grown, fun task found => ?_⟩
    cases site.page.step_tasked event found with
    | same before => exact promised task before
    | load _ _ new => omega
    | render fresh new =>
        rcases new with new | ⟨_, _, waited⟩
        · omega
        · obtain ⟨_, same, _⟩ := promised _ waited
          cases same
    | settled arrived before awaits =>
        obtain ⟨render, same, requests⟩ := promised _ before
        cases same
        refine ⟨_, rfl, fun fetch held => ?_⟩
        obtain ⟨old, earlier, request⟩ := settle_request held
        rw [← request]
        exact requests old earlier
  · intro gen task found fetch member body ended
    cases site.page.step_tasked event found with
    | same before => exact observes.fetches gen task before fetch member body ended
    | render fresh new =>
        rw [fresh fetch member] at ended
        cases ended
    | settled arrived before awaits => exact settled _ _ _ _ _ arrived before fetch member body ended
  · intro rendering rendered response member
    rcases site.page.step_sourced event rendered with
      ⟨old, before, gen, responses⟩ | ⟨task, index, outcome, thrown, arrived, waited, _, fulfilled⟩
    · rw [← gen]
      exact observes.renderings old before response (responses ▸ member)
    · obtain ⟨fetch, held, found⟩ :=
        (Transaction.forall₂_mem (RenderTask.fulfilled_eq_some fulfilled)).2 response member
      obtain ⟨request, ended⟩ := Fetch.fulfilled_eq_some found
      rw [← request]
      exact settled _ _ _ _ _ arrived waited fetch held response.2 ended

variable (external browser) in
theorem Observes.stepPage (observes : Observes answered listed site) (action : PageAction)
    (nodes : ∀ faults items, nodesReply external browser site.control (.served faults) =
      .ok items → listed (items.getD []))
    (telemetry : ∀ gen ≤ site.page.currentRenderGen, ∀ request faults body,
      telemetryReply external browser site.control request (.served faults) = .ok body →
        answered gen request body) :
    Observes answered listed (site.stepPage external browser action) := by
  cases action with
  | user event =>
      simp only [Site.stepPage]
      split
      · rename_i chosen
        refine observes.page_step event ?_ ?_
        · rintro gen items rfl
          cases chosen
        · rintro gen index outcome thrown rfl
          cases chosen
      · exact observes
  | answerNodes gen service =>
      simp only [Site.stepPage]
      split
      · refine ⟨observes.tracks, observes.inventory, ?_, ?_, ?_, observes.fetches,
          observes.renderings⟩
        · intro other items member
          rcases List.mem_append.mp member with old | new
          · exact observes.nodes other items old
          · cases service with
            | lost message => simp [nodesReply] at new
            | served faults =>
                simp only [List.mem_singleton, PageReply.nodes.injEq] at new
                exact nodes faults items new.2.symm
        · intro other index request body member
          rcases List.mem_append.mp member with old | new
          · exact observes.telemetry other index request body old
          · simp at new
        · intro other index request outcome member
          rcases List.mem_append.mp member with old | new
          · exact observes.promises other index request outcome old
          · simp at new
      · exact observes
  | answerTelemetry gen index service =>
      simp only [Site.stepPage]
      split
      · rename_i task waited
        have current := observes.tracks.tasks gen _ waited
        split
        · rename_i fetch held
          refine ⟨observes.tracks, observes.inventory, ?_, ?_, ?_, observes.fetches,
            observes.renderings⟩
          · intro other items member
            rcases List.mem_append.mp member with old | new
            · exact observes.nodes other items old
            · simp at new
          · intro other place request body member
            rcases List.mem_append.mp member with old | new
            · exact observes.telemetry other place request body old
            · simp only [List.mem_singleton, PageReply.telemetry.injEq] at new
              obtain ⟨rfl, rfl, rfl, answer⟩ := new
              cases service with
              | lost message => cases answer
              | served faults => exact telemetry _ current _ faults body answer.symm
          · intro other place request outcome member
            rcases List.mem_append.mp member with old | new
            · exact observes.promises other place request outcome old
            · simp only [List.mem_singleton, PageReply.telemetry.injEq] at new
              obtain ⟨rfl, rfl, rfl, _⟩ := new
              refine ⟨current, fun found same => ?_⟩
              rw [waited] at same
              cases same
              refine ⟨task, rfl, fun other found => ?_⟩
              rw [held] at found
              cases found
              rfl
        · exact observes
      · exact observes
  | receive reply thrown =>
      simp only [Site.stepPage]
      split
      · rename_i gen result held
        have member := List.mem_of_getElem? held
        refine observes.page_step _ ?_ ?_
        · rintro other items same
          cases same
          exact observes.nodes gen items member
        · rintro other index outcome thrown same
          cases same
      · rename_i gen index request outcome held
        have member := List.mem_of_getElem? held
        refine observes.page_step _ ?_ ?_
        · rintro other items same
          cases same
        · rintro other place result last same task fetch waited found body ended
          cases same
          obtain ⟨_, promised⟩ := observes.promises gen index request outcome member
          obtain ⟨render, equal, requests⟩ := promised _ waited
          cases equal
          rw [requests fetch found]
          exact observes.telemetry gen index request body (ended ▸ member)
      · exact observes

end Steps

variable {external : External} {browser : Browser}

def retained (external : External) (actions : List SiteAction) : List BatchEnvelope :=
  ServerHistory.retained external (actions.filterMap SiteAction.call)

theorem stepPage_control (site : Site) (action : PageAction) :
    (site.stepPage external browser action).control = site.control := by
  cases action with
  | user event =>
      simp only [stepPage]
      split
      · rfl
      · rfl
  | answerNodes gen service =>
      simp only [stepPage]
      split
      · rfl
      · rfl
  | answerTelemetry gen index service =>
      simp only [stepPage]
      split
      · split
        · rfl
        · rfl
      · rfl
  | receive reply thrown =>
      simp only [stepPage]
      split
      · rfl
      · rfl
      · rfl

variable (browser) in
theorem run_control (metricSelect : Metric) (actions : List SiteAction) :
    (run external browser metricSelect actions).control =
      (ServerHistory.run external (actions.filterMap SiteAction.call)).tables := by
  induction actions using List.reverseRecOn with
  | nil => rfl
  | append_singleton actions action ih =>
      rw [run, run_snoc, List.filterMap_append]
      rw [run] at ih
      cases action with
      | page action =>
          have nothing : [SiteAction.page action].filterMap SiteAction.call = [] := rfl
          rw [nothing, List.append_nil, ← ih]
          exact stepPage_control _ action
      | request call =>
          have single : [SiteAction.request call].filterMap SiteAction.call = [call] := rfl
          rw [single, ServerHistory.run, run_snoc]
          rw [ServerHistory.run] at ih
          simp only [step, ServerHistory.step, ih]

end Site

inductive Browser.Reports (browser : Browser) (envelopes : List BatchEnvelope) :
    TelemetryRequest → Telemetry → Prop
  | stats {node capturePoint totals}
      (exactly : StatsOf envelopes { node, capturePoint := some capturePoint } totals) :
      Reports browser envelopes (.stats node capturePoint) (.stats (browser.totals totals))
  | series {node capturePoint fromSecs toSecs points}
      (exactly : ExactPoints points (bucketsWithin
        (matchingBuckets envelopes node (some capturePoint)) (browser.write fromSecs)
        (browser.write toSecs))) :
      Reports browser envelopes (.series node capturePoint fromSecs toSecs)
        (.series (points.map browser.point))

namespace Site

section Served

variable {external : External} {browser : Browser} {metricSelect : Metric}
  {actions : List SiteAction}

theorem telemetryReply_reports {control : ControlTables} {envelopes : List BatchEnvelope}
    {request : TelemetryRequest} {faults : ControlFaults} {body : Telemetry}
    (served : ServedFrom envelopes { request := browser.route request, faults }
      (controlRouter external { request := browser.route request, faults } control).1)
    (answer : telemetryReply external browser control request (.served faults) = .ok body) :
    browser.Reports envelopes request body := by
  simp only [telemetryReply] at answer
  unfold Browser.fetchTelemetry at answer
  split at answer
  · rename_i totals found
    cases answer
    obtain ⟨query, same, exactly⟩ := served.stats totals found
    cases request with
    | stats node capturePoint =>
        cases same
        exact .stats exactly
    | series node capturePoint fromSecs toSecs => cases same
  · rename_i points found
    cases answer
    obtain ⟨query, same, exactly⟩ := served.series points found
    cases request with
    | stats node capturePoint => cases same
    | series node capturePoint fromSecs toSecs =>
        cases same
        exact .series exactly
  · cases answer
  · cases answer

def AnsweredIn (external : External) (browser : Browser) (metricSelect : Metric)
    (actions : List SiteAction) (gen : Nat) (request : TelemetryRequest) (body : Telemetry) : Prop :=
  ∃ earlier later, actions = earlier ++ later ∧
    gen ≤ (run external browser metricSelect earlier).page.currentRenderGen ∧
    browser.Reports (retained external earlier) request body

def ListedIn (external : External) (browser : Browser) (actions : List SiteAction)
    (inventory : List NodeInventoryItem) : Prop :=
  ∃ earlier later items, actions = earlier ++ later ∧ NodesOf (retained external earlier) items ∧
    inventory = items.map browser.item

theorem nodesReply_lists {faults : ControlFaults} {items : Option (List NodeInventoryItem)}
    (answer : nodesReply external browser
      (run external browser metricSelect actions).control (.served faults) = .ok items) :
    ListedIn external browser actions (items.getD []) := by
  rw [run_control] at answer
  have served := server_servedFrom external (actions.filterMap SiteAction.call)
    { request := .nodes, faults }
  simp only [nodesReply] at answer
  unfold Browser.fetchNodes at answer
  split at answer
  · rename_i listed found
    cases answer
    exact ⟨actions, [], listed, by simp, served.nodes listed found, rfl⟩
  · cases answer
  · cases answer

theorem run_observes (external : External) (browser : Browser) (metricSelect : Metric)
    (actions : List SiteAction) :
    Observes (AnsweredIn external browser metricSelect actions) (ListedIn external browser actions)
      (run external browser metricSelect actions) := by
  induction actions using List.reverseRecOn with
  | nil => exact observes_opened metricSelect
  | append_singleton actions action ih =>
      have still : Observes
          (AnsweredIn external browser metricSelect (actions ++ [action]))
          (ListedIn external browser (actions ++ [action]))
          (run external browser metricSelect actions) := by
        refine ih.mono ?_ ?_
        · rintro gen request body ⟨earlier, later, rfl, began, reports⟩
          exact ⟨earlier, later ++ [action], by simp, began, reports⟩
        · rintro items ⟨earlier, later, held, rfl, nodes, same⟩
          exact ⟨earlier, later ++ [action], held, by simp, nodes, same⟩
      rw [run, run_snoc]
      cases action with
      | request call => exact still.withControl _
      | page action =>
          refine still.stepPage external browser action ?_ ?_
          · intro faults items answer
            obtain ⟨earlier, later, held, split, nodes, same⟩ := nodesReply_lists answer
            exact ⟨earlier, later ++ [.page action], held, by simp [split], nodes, same⟩
          · intro gen current request faults body answer
            have served := server_servedFrom external (actions.filterMap SiteAction.call)
              { request := browser.route request, faults }
            rw [← run_control browser metricSelect] at served
            exact ⟨actions, [.page action], rfl, current, telemetryReply_reports served answer⟩

end Served

end Site

/-- Whatever other clients ingest meanwhile, in whatever order requests are handled and responses
arrive: the inventory of the page was exact for what the store retained at one moment, and each
response that a section shows was at a moment since its generation began. -/
theorem rendered_from_store (external : External) (browser : Browser) (metricSelect : Metric)
    (actions : List SiteAction) :
    let site := Site.run external browser metricSelect actions
    (site.page.inventory = [] ∨ ∃ earlier later items, actions = earlier ++ later ∧
      NodesOf (Site.retained external earlier) items ∧
      site.page.inventory = items.map browser.item) ∧
    ∀ part rendering, site.page.view part = some rendering →
      ∀ response ∈ rendering.responses, ∃ earlier later, actions = earlier ++ later ∧
        rendering.gen ≤
          (Site.run external browser metricSelect earlier).page.currentRenderGen ∧
        browser.Reports (Site.retained external earlier) response.1 response.2 := by
  intro site
  have observes := Site.run_observes external browser metricSelect actions
  refine ⟨observes.inventory, ?_⟩
  intro part rendering shown
  exact observes.renderings rendering (.inr ⟨part, shown⟩)

end FlowObservability
