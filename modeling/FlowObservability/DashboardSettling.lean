import FlowObservability.DashboardSelection

/-!
Whether the dashboard comes to rest. A generation ends in content, in an error or in the empty
state, but for a render without a primary item, which only enables the button.
-/

namespace FlowObservability

open Runs

namespace Dashboard

variable {page : Dashboard} {event : Event}

def Quiet (page : Dashboard) : Prop := ∀ gen, page.tasks gen = none

structure Settled (page : Dashboard) : Prop where
  enabled : page.refreshBtn.disabled = false
  badge : page.statusBadge.text ≠ "Refreshing…"
  visible : page.emptyState = true ∨ page.errorBanner.isSome = true ∨ page.dashboardContent = true

/-- A change of the primary target, the compare target or the metric while the primary select
names no item of the inventory. -/
def blind (page : Dashboard) (event : Event) : Bool :=
  (page.changed event).any (·.primaryItem.isNone)

def EndsBlind (metricSelect : Metric) (events : List Event) : Prop :=
  LastMarked step (opened metricSelect) (fun page event => page.starts event = true)
    (fun page event => page.blind event = true) events

def Awaited (page : Dashboard) : Prop :=
  ∃ task, page.tasks page.currentRenderGen = some task ∧
    ∀ render, task = .render render → render.rejected = false

/-- The current generation has ended with a badge that says it has not. -/
structure Stuck (page : Dashboard) : Prop where
  none : page.tasks page.currentRenderGen = none
  badge : page.statusBadge.text = "Refreshing…"

theorem setTask_awaited (page : Dashboard) {task : PageTask}
    (accepted : ∀ render, task = .render render → render.rejected = false) :
    (page.setTask page.currentRenderGen (some task)).Awaited :=
  ⟨task, Function.update_self _ _ _, accepted⟩

theorem loadInventory_awaited (page : Dashboard) : page.loadInventory.Awaited :=
  setTask_awaited _ fun _ same => by cases same

theorem render_awaited (primary : page.primaryItem ≠ none) :
    (page.renderDashboardInternal page.currentRenderGen).Awaited := by
  rcases page.renderDashboardInternal_cases with
    ⟨nothing, _⟩ | ⟨box, task, begun, _, accepted⟩
  · exact absurd nothing primary
  · rw [begun]
    apply setTask_awaited
    intro render same
    cases same
    exact accepted

theorem render_stuck (clear : page.Clear) (badge : page.statusBadge.text = "Refreshing…")
    (nothing : page.primaryItem = none) :
    (page.renderDashboardInternal page.currentRenderGen).Stuck := by
  rcases page.renderDashboardInternal_cases with ⟨_, ended⟩ | ⟨box, task, _, selects, _⟩
  · rw [ended]
    exact ⟨clear.vacant, badge⟩
  · have primary : page.primaryItem = some task.primaryItem := selects.primary
    cases nothing.symm.trans primary

theorem Settled.setTask (settled : page.Settled) (gen : Nat) (task : Option PageTask) :
    (page.setTask gen task).Settled :=
  ⟨settled.enabled, settled.badge, settled.visible⟩

theorem showError_settled (page : Dashboard) (message : String) : (page.showError message).Settled :=
  ⟨rfl, by simp [showError, setBadge], .inr (.inl rfl)⟩

theorem Settled.redrawn (settled : page.Settled) : page.redrawChart.Settled := by
  unfold redrawChart
  split
  · exact settled
  · exact ⟨settled.enabled, settled.badge, settled.visible⟩

theorem Stuck.redrawn (stuck : page.Stuck) : page.redrawChart.Stuck := by
  unfold redrawChart
  split
  · exact stuck
  · exact ⟨stuck.none, stuck.badge⟩

theorem Awaited.redrawn (awaited : page.Awaited) : page.redrawChart.Awaited := by
  unfold redrawChart
  split
  · exact awaited
  · exact awaited

theorem Loaded.rests {next : Dashboard} (loaded : page.Loaded next) :
    next.Awaited ∨ next.Settled := by
  cases loaded with
  | failed message => exact .inr (showError_settled _ _)
  | emptied => exact .inr ⟨rfl, by simp [unlockRefresh, setBadge], .inl rfl⟩
  | rendered primary => exact .inl (render_awaited primary)

theorem telemetryFetched_settled (page : Dashboard) (task : RenderTask)
    (responses : List (TelemetryRequest × Telemetry)) (thrown : Option (Section × String)) :
    (page.telemetryFetched page.currentRenderGen task responses thrown).Settled := by
  rw [telemetryFetched, if_neg (not_not.mpr rfl)]
  cases thrown with
  | none => exact ⟨rfl, by simp [unlockRefresh, writeSections, setBadge], .inr (.inr rfl)⟩
  | some last => exact showError_settled _ _

theorem Fetched.rests {next : Dashboard} {task : RenderTask} (fetched : page.Fetched task next)
    (waited : page.tasks page.currentRenderGen = some (.render task))
    (rests : page.Awaited ∨ page.Settled) : next.Awaited ∨ next.Settled := by
  cases fetched with
  | late rejected leftover =>
      rcases rests with ⟨other, found, accepted⟩ | settled
      · cases waited.symm.trans found
        cases rejected.symm.trans (accepted task rfl)
      · exact .inr (settled.setTask _ _)
  | awaiting accepted same =>
      left
      apply setTask_awaited
      intro render kept
      cases kept
      exact accepted
  | failed message leftover => exact .inr (showError_settled _ _)
  | written thrown same requests =>
      exact .inr (telemetryFetched_settled (page.setTask page.currentRenderGen none) _ _ _)

theorem changed_starts {next : Dashboard} (change : page.changed event = some next) :
    page.starts event = true := by
  cases event with
  | refresh => cases change
  | resize => cases change
  | nodes gen result => cases change
  | telemetry gen index outcome thrown => cases change
  | primary value => simp [starts, change]
  | compare value => simp [starts, change]
  | metric value => simp [starts, change]

theorem not_blind_of_quiet (quiet : page.starts event = false) : page.blind event = false := by
  cases change : page.changed event with
  | none => simp [blind, change]
  | some next => cases quiet.symm.trans (changed_starts change)

theorem Awaited.outdated (awaited : page.Awaited) {gen : Nat} (old : gen ≠ page.currentRenderGen)
    (task : Option PageTask) : (page.setTask gen task).Awaited := by
  obtain ⟨current, found, accepted⟩ := awaited
  exact ⟨current, (Function.update_of_ne old.symm _ _).trans found, accepted⟩

theorem Stuck.outdated (stuck : page.Stuck) {gen : Nat} (old : gen ≠ page.currentRenderGen)
    (task : Option PageTask) : (page.setTask gen task).Stuck :=
  ⟨(Function.update_of_ne old.symm _ _).trans stuck.none, stuck.badge⟩

theorem Moves.quiet {next : Dashboard} (moves : page.Moves event next)
    (nothing : page.starts event = false) :
    (page.Stuck → next.Stuck) ∧
      (page.Awaited ∨ page.Settled → next.Awaited ∨ next.Settled) := by
  cases moves with
  | idle quiet => exact ⟨id, id⟩
  | resized resize =>
      exact ⟨Stuck.redrawn, Or.imp Awaited.redrawn Settled.redrawn⟩
  | refreshed refresh enabled =>
      subst refresh
      simp [starts, enabled] at nothing
  | changed change => cases nothing.symm.trans (changed_starts change)
  | outdated quiet old waited =>
      exact ⟨fun stuck => stuck.outdated old _, Or.imp (·.outdated old _) (·.setTask _ _)⟩
  | loaded quiet waited loaded =>
      exact ⟨fun stuck => (by cases stuck.none.symm.trans waited), fun _ => loaded.rests⟩
  | fetched quiet waited fetched =>
      exact ⟨fun stuck => (by cases stuck.none.symm.trans waited), fetched.rests waited⟩

theorem Moves.start {next : Dashboard} (tracks : page.Tracks) (moves : page.Moves event next)
    (started : page.starts event = true) :
    (page.blind event = true → next.Stuck) ∧ (page.blind event ≠ true → next.Awaited) := by
  cases moves with
  | idle quiet => cases quiet.symm.trans started
  | resized resize =>
      subst resize
      cases started
  | refreshed refresh enabled =>
      subst refresh
      exact ⟨fun blind => (by cases blind), fun _ => page.loadInventory_awaited⟩
  | changed change =>
      simp only [blind, change, Option.any_some]
      obtain ⟨primarySelect, compareSelect, metricSelect, rfl⟩ := changed_eq change
      have clear : Clear { page with
          primarySelect, compareSelect, metricSelect }.nextGeneration :=
        ⟨tracks.next.tasks, tracks.next.renderings⟩
      constructor
      · intro nothing
        exact render_stuck clear rfl (Option.isNone_iff_eq_none.mp nothing)
      · intro primary
        apply render_awaited
        exact fun nothing => primary (Option.isNone_iff_eq_none.mpr nothing)
  | outdated quiet old waited => cases quiet.symm.trans started
  | loaded quiet waited loaded => cases quiet.symm.trans started
  | fetched quiet waited fetched => cases quiet.symm.trans started

/-- After its last refresh or change the page is stuck if that was blind, and otherwise at rest or
on its way there. -/
theorem run_rests (metricSelect : Metric) (events : List Event) :
    (EndsBlind metricSelect events → (run metricSelect events).Stuck) ∧
      (¬EndsBlind metricSelect events →
        (run metricSelect events).Awaited ∨ (run metricSelect events).Settled) := by
  induction events using List.reverseRecOn with
  | nil =>
      refine ⟨fun ends => absurd ends lastMarked_nil, fun _ => .inl ?_⟩
      exact loadInventory_awaited _
  | append_singleton events event ih =>
      have tracks := run_tracks metricSelect events
      have moves := (run metricSelect events).step_moves event
      rw [EndsBlind, lastMarked_snoc, run, run_snoc]
      by_cases started : (run metricSelect events).starts event = true
      · have begun := moves.start tracks started
        constructor
        · rintro (blind | ⟨quiet, _⟩)
          · exact begun.1 blind
          · exact absurd started quiet
        · intro sighted
          exact .inl (begun.2 fun blind => sighted (.inl blind))
      · have quiet : (run metricSelect events).starts event = false := by simpa using started
        obtain ⟨stuck, rests⟩ := moves.quiet quiet
        constructor
        · rintro (blind | ⟨_, ends⟩)
          · cases (not_blind_of_quiet quiet).symm.trans blind
          · exact stuck (ih.1 ends)
        · intro sighted
          exact rests (ih.2 fun ends => sighted (.inr ⟨started, ends⟩))

/-- Once no fetch is outstanding, the page has come to rest exactly when its last refresh or
change was not blind. -/
theorem dashboard_settles_iff (metricSelect : Metric) (events : List Event)
    (quiet : (run metricSelect events).Quiet) :
    (run metricSelect events).Settled ↔ ¬EndsBlind metricSelect events := by
  obtain ⟨stuck, rests⟩ := run_rests metricSelect events
  constructor
  · intro settled ends
    exact settled.badge (stuck ends).badge
  · intro sighted
    rcases rests sighted with ⟨task, found, _⟩ | settled
    · cases (quiet _).symm.trans found
    · exact settled

theorem not_endsBlind {metricSelect : Metric} {events : List Event}
    (sighted : ∀ before event after, events = before ++ event :: after →
      (run metricSelect before).blind event = false) : ¬EndsBlind metricSelect events := by
  rintro ⟨before, event, after, split, blind, _⟩
  cases (sighted before event after split).symm.trans blind

/-- The metric is changed before the first inventory is there. When it comes it is discarded, and
the page goes on saying that it refreshes, with nothing to see. -/
theorem early_change_never_settles :
    let page := run .bytes [.metric .packets, nodeArrival]
    page.Quiet ∧ page.statusBadge = { state := "refreshing", text := "Refreshing…" } ∧
      page.refreshBtn = { disabled := false, text := "Refresh" } ∧ page.emptyState = false ∧
      page.errorBanner = none ∧ page.dashboardContent = false ∧ ¬page.Settled := by
  intro page
  have badge : page.statusBadge = { state := "refreshing", text := "Refreshing…" } := rfl
  refine ⟨?_, badge, rfl, rfl, rfl, rfl, ?_⟩
  · intro gen
    rcases gen with _ | _ | gen <;> rfl
  · intro settled
    exact settled.badge (congrArg Badge.text badge)

theorem dashboard_settles_iff_node : (run .bytes nodeTelemetry).Settled := by
  have quiet : (run .bytes nodeTelemetry).Quiet := by
    intro gen
    rcases gen with _ | _ | gen <;> rfl
  refine (dashboard_settles_iff .bytes nodeTelemetry quiet).mpr (not_endsBlind ?_)
  intro before event after split
  have member : event ∈ nodeTelemetry := by simp [split]
  simp only [nodeTelemetry, nodeArrival, List.mem_cons, List.not_mem_nil, or_false] at member
  rcases member with rfl | rfl | rfl <;> rfl

end Dashboard

end FlowObservability
