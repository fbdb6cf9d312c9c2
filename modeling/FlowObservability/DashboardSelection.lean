import FlowObservability.DashboardSteps

/-!
The view follows the selection: of all renders in flight only the one of the current generation
can write, and nothing has changed its selection since it began.
-/

namespace FlowObservability

open Runs

namespace Dashboard

variable {page : Dashboard} {event : Event}

def Rendered (page : Dashboard) (rendering : Rendering) : Prop :=
  page.lastChartState = some rendering ∨ ∃ part, page.view part = some rendering

structure Shows (page : Dashboard) (rendering : Rendering) : Prop where
  current : rendering.gen = page.currentRenderGen
  selected : page.Selects rendering.primaryItem rendering.compareItem rendering.fromSecs
    rendering.toSecs (rendering.responses.map Prod.fst)
  metric : rendering.metric = page.metricSelect

/-- The task of the current generation, if there is one, is for the standing selection, and all
there is on the page is older. -/
structure Tracks (page : Dashboard) : Prop where
  tasks : ∀ gen task, page.tasks gen = some task → gen ≤ page.currentRenderGen
  selected : ∀ task, page.tasks page.currentRenderGen = some (.render task) →
    page.Matches task ∧ page.currentMetric = page.metricSelect
  renderings : ∀ rendering, page.Rendered rendering → rendering.gen ≤ page.currentRenderGen
  older : page.tasks page.currentRenderGen ≠ none → ∀ rendering, page.Rendered rendering →
    rendering.gen < page.currentRenderGen

structure Clear (page : Dashboard) : Prop where
  tasks : ∀ gen task, page.tasks gen = some task → gen < page.currentRenderGen
  renderings : ∀ rendering, page.Rendered rendering → rendering.gen < page.currentRenderGen

theorem Clear.setTask (clear : page.Clear) (task : Option PageTask)
    (selected : ∀ render, task = some (.render render) →
      page.Matches render ∧ page.currentMetric = page.metricSelect) :
    (page.setTask page.currentRenderGen task).Tracks := by
  constructor
  · intro gen other found
    by_cases current : gen = page.currentRenderGen
    · exact current.le
    · simp only [Dashboard.setTask, Function.update_of_ne current] at found
      exact (clear.tasks gen other found).le
  · intro render found
    simp only [Dashboard.setTask, Function.update_self] at found
    obtain ⟨selects, metric⟩ := selected render found
    exact ⟨selects.congr rfl rfl, metric⟩
  · exact fun rendering rendered => (clear.renderings rendering rendered).le
  · exact fun _ => clear.renderings

theorem Clear.vacant (clear : page.Clear) : page.tasks page.currentRenderGen = none := by
  by_contra waited
  obtain ⟨task, found⟩ := Option.ne_none_iff_exists'.mp waited
  exact lt_irrefl _ (clear.tasks _ task found)

theorem Clear.tracks (clear : page.Clear) : page.Tracks := by
  constructor
  · exact fun gen task found => (clear.tasks gen task found).le
  · simp [clear.vacant]
  · exact fun rendering rendered => (clear.renderings rendering rendered).le
  · exact fun _ => clear.renderings

theorem Clear.render (clear : page.Clear) :
    (page.renderDashboardInternal page.currentRenderGen).Tracks := by
  rcases page.renderDashboardInternal_cases with ⟨_, ended⟩ | ⟨box, task, begun, selects, _⟩
  · rw [ended]
    exact Clear.tracks ⟨clear.tasks, clear.renderings⟩
  · have still : Clear { page with currentMetric := page.metricSelect, compareSelect := box } :=
      ⟨clear.tasks, clear.renderings⟩
    rw [begun]
    apply still.setTask
    intro render same
    cases same
    exact ⟨selects, rfl⟩

theorem Tracks.next (tracks : page.Tracks) : page.nextGeneration.Clear :=
  ⟨fun gen task found => Nat.lt_succ_of_le (tracks.tasks gen task found),
    fun rendering rendered => Nat.lt_succ_of_le (tracks.renderings rendering rendered)⟩

theorem Tracks.clear (tracks : page.Tracks) (waited : page.tasks page.currentRenderGen ≠ none) :
    (page.setTask page.currentRenderGen none).Clear := by
  refine ⟨?_, tracks.older waited⟩
  intro gen task found
  by_cases current : gen = page.currentRenderGen
  · simp [Dashboard.setTask, current] at found
  · simp only [Dashboard.setTask, Function.update_of_ne current] at found
    exact lt_of_le_of_ne (tracks.tasks gen task found) current

theorem Clear.loaded {next : Dashboard} (clear : page.Clear) (loaded : page.Loaded next) :
    next.Tracks := by
  cases loaded with
  | failed message => exact Clear.tracks ⟨clear.tasks, clear.renderings⟩
  | emptied => exact Clear.tracks ⟨clear.tasks, clear.renderings⟩
  | rendered primary => exact Clear.render ⟨clear.tasks, clear.renderings⟩

theorem setTask_setTask (page : Dashboard) (gen : Nat) (first second : Option PageTask) :
    (page.setTask gen first).setTask gen second = page.setTask gen second := by
  simp [setTask, Function.update_idem]

theorem Clear.leftover {task : RenderTask} {next : Option PageTask}
    (clear : (page.setTask page.currentRenderGen none).Clear) (leftover : Leftover task next)
    (selects : page.Matches task) (metric : page.currentMetric = page.metricSelect) :
    (page.setTask page.currentRenderGen next).Tracks := by
  rw [← setTask_setTask page _ none next]
  apply clear.setTask
  rintro render rfl
  obtain ⟨settled, same, _, matched⟩ := leftover _ rfl
  cases same
  exact ⟨((matched page).mpr selects).congr rfl rfl, metric⟩

theorem telemetryFetched_eq (page : Dashboard) (task : RenderTask)
    (responses : List (TelemetryRequest × Telemetry)) (thrown : Option (Section × String)) :
    ∃ statusBadge refreshBtn errorBanner dashboardContent,
      page.telemetryFetched page.currentRenderGen task responses thrown =
        { page.writeSections {
            gen := page.currentRenderGen, primaryItem := task.primaryItem
            compareItem := task.compareItem, fromSecs := task.fromSecs, toSecs := task.toSecs
            metric := page.currentMetric, responses } thrown with
          statusBadge, refreshBtn, errorBanner, dashboardContent } := by
  rw [telemetryFetched, if_neg (not_not.mpr rfl)]
  cases thrown with
  | none => exact ⟨_, _, _, _, rfl⟩
  | some last => exact ⟨_, _, _, _, rfl⟩

theorem writeSections_rendered {rendering other : Rendering} {thrown : Option (Section × String)}
    (rendered : (page.writeSections rendering thrown).Rendered other) :
    other = rendering ∨ page.Rendered other := by
  unfold writeSections at rendered
  rcases rendered with last | ⟨part, shown⟩
  · dsimp only at last
    split at last
    · exact .inl (Option.some.inj last).symm
    · exact .inr (.inl last)
  · dsimp only at shown
    split at shown
    · exact .inl (Option.some.inj shown).symm
    · exact .inr (.inr ⟨part, shown⟩)

theorem redrawChart_rendered {other : Rendering} (rendered : page.redrawChart.Rendered other) :
    ∃ rendering, page.Rendered rendering ∧ other.gen = rendering.gen := by
  unfold redrawChart at rendered
  split at rendered
  · exact ⟨other, rendered, rfl⟩
  · rename_i last kept
    rcases rendered with same | ⟨part, shown⟩
    · exact ⟨other, .inl same, rfl⟩
    · dsimp only at shown
      by_cases chart : part = .chart
      · subst chart
        rw [Function.update_self] at shown
        cases shown
        exact ⟨last, .inl kept, rfl⟩
      · rw [Function.update_of_ne chart] at shown
        exact ⟨other, .inr ⟨part, shown⟩, rfl⟩

theorem Clear.written (clear : page.Clear) (task : RenderTask)
    (responses : List (TelemetryRequest × Telemetry)) (thrown : Option (Section × String)) :
    (page.telemetryFetched page.currentRenderGen task responses thrown).Tracks := by
  obtain ⟨_, _, _, _, written⟩ := telemetryFetched_eq page task responses thrown
  have none := clear.vacant
  rw [written]
  constructor
  · exact clear.tracks.tasks
  · intro render found
    cases none.symm.trans found
  · intro other rendered
    rcases writeSections_rendered rendered with rfl | before
    · exact le_refl _
    · exact (clear.renderings other before).le
  · exact fun waited => absurd none waited

theorem Tracks.redrawn (tracks : page.Tracks) : page.redrawChart.Tracks := by
  have same : ∃ view, page.redrawChart = { page with view } := by
    unfold redrawChart
    split
    · exact ⟨page.view, rfl⟩
    · exact ⟨_, rfl⟩
  have old : ∀ other, page.redrawChart.Rendered other →
      ∃ rendering, page.Rendered rendering ∧ other.gen = rendering.gen :=
    fun _ => redrawChart_rendered
  obtain ⟨view, redrawn⟩ := same
  rw [redrawn] at old ⊢
  constructor
  · exact tracks.tasks
  · intro render found
    obtain ⟨selects, metric⟩ := tracks.selected render found
    exact ⟨selects.congr rfl rfl, metric⟩
  · intro other rendered
    obtain ⟨rendering, before, same⟩ := old other rendered
    exact same.le.trans (tracks.renderings rendering before)
  · intro waited other rendered
    obtain ⟨rendering, before, same⟩ := old other rendered
    exact same.trans_lt (tracks.older waited rendering before)

theorem Tracks.outdated {gen : Nat} (tracks : page.Tracks) (old : gen ≠ page.currentRenderGen)
    (waited : page.tasks gen ≠ none) (task : Option PageTask) : (page.setTask gen task).Tracks := by
  have current : (page.setTask gen task).tasks page.currentRenderGen =
      page.tasks page.currentRenderGen := Function.update_of_ne old.symm _ _
  constructor
  · intro other found same
    by_cases ended : other = gen
    · obtain ⟨before, waiting⟩ := Option.ne_none_iff_exists'.mp waited
      rw [ended]
      exact tracks.tasks gen before waiting
    · simp only [setTask, Function.update_of_ne ended] at same
      exact tracks.tasks other found same
  · intro render found
    obtain ⟨selects, metric⟩ := tracks.selected render (current.symm.trans found)
    exact ⟨selects.congr rfl rfl, metric⟩
  · exact tracks.renderings
  · exact fun waiting => tracks.older fun none => waiting (current.trans none)

theorem Tracks.fetched {next : Dashboard} {task : RenderTask} (tracks : page.Tracks)
    (waited : page.tasks page.currentRenderGen = some (.render task))
    (fetched : page.Fetched task next) : next.Tracks := by
  obtain ⟨selects, metric⟩ := tracks.selected task waited
  have clear := tracks.clear (by simp [waited])
  cases fetched with
  | late rejected leftover => exact clear.leftover leftover selects metric
  | awaiting accepted same =>
      rw [← setTask_setTask page _ none]
      apply clear.setTask
      intro render kept
      cases kept
      exact ⟨((same page).mpr selects).congr rfl rfl, metric⟩
  | failed message leftover =>
      have kept := clear.leftover leftover selects metric
      exact ⟨kept.tasks, fun render found => ⟨(kept.selected render found).1.congr rfl rfl,
        (kept.selected render found).2⟩, kept.renderings, kept.older⟩
  | written thrown same requests => exact clear.written _ _ _

theorem Tracks.step (tracks : page.Tracks) (event : Event) : (page.step event).Tracks := by
  have moves := page.step_moves event
  generalize page.step event = next at moves
  cases moves with
  | idle quiet => exact tracks
  | resized resize => exact tracks.redrawn
  | refreshed refresh enabled =>
      apply tracks.next.setTask
      intro render same
      cases same
  | changed change =>
      obtain ⟨primarySelect, compareSelect, metricSelect, rfl⟩ := changed_eq change
      exact Clear.render ⟨tracks.next.tasks, tracks.next.renderings⟩
  | outdated quiet old waited => exact tracks.outdated old waited _
  | loaded quiet waited loaded => exact (tracks.clear (by simp [waited])).loaded loaded
  | fetched quiet waited fetched => exact tracks.fetched waited fetched

theorem run_tracks (metricSelect : Metric) (events : List Event) :
    (run metricSelect events).Tracks := by
  apply run_invariant
  · have clear : Clear { metricSelect := metricSelect : Dashboard }.nextGeneration := by
      constructor
      · simp [nextGeneration, setBadge, lockRefresh]
      · rintro rendering (last | ⟨part, shown⟩)
        · cases last
        · cases shown
    apply clear.setTask
    intro render same
    cases same
  · intro page event _ tracks
    exact tracks.step event

theorem render_view (page : Dashboard) :
    (page.renderDashboardInternal page.currentRenderGen).view = page.view := by
  rcases page.renderDashboardInternal_cases with ⟨_, ended⟩ | ⟨box, task, begun, _⟩
  · rw [ended]
    rfl
  · rw [begun]
    rfl

theorem Clear.written_view (clear : page.Clear) (task : RenderTask)
    {responses : List (TelemetryRequest × Telemetry)} (thrown : Option (Section × String))
    (selects : page.Matches task) (metric : page.currentMetric = page.metricSelect)
    (requests : responses.map Prod.fst = task.fetches.map (·.request)) (part : Section) :
    let next := page.telemetryFetched page.currentRenderGen task responses thrown
    next.view part = page.view part ∨ ∃ rendering, next.view part = some rendering ∧
      next.Shows rendering ∧ ∀ old, page.view part = some old → old.gen < rendering.gen := by
  obtain ⟨_, _, _, _, written⟩ := telemetryFetched_eq page task responses thrown
  rw [written]
  simp only [writeSections]
  split
  · right
    refine ⟨_, rfl, ⟨rfl, ?_, metric⟩, fun old shown => clear.renderings old (.inr ⟨part, shown⟩)⟩
    exact ⟨selects.primary, selects.compare, selects.distinct, selects.window,
      requests.trans selects.requests⟩
  · exact .inl rfl

theorem Tracks.view_step (tracks : page.Tracks) (event : Event) (part : Section) :
    (page.step event).view part = page.view part ∨ event = .resize ∨
      ∃ rendering, (page.step event).view part = some rendering ∧
        (page.step event).Shows rendering ∧
        ∀ old, page.view part = some old → old.gen < rendering.gen := by
  have moves := page.step_moves event
  generalize page.step event = next at moves
  cases moves with
  | idle quiet => exact .inl rfl
  | resized resize => exact .inr (.inl resize)
  | refreshed refresh enabled => exact .inl rfl
  | changed change =>
      obtain ⟨primarySelect, compareSelect, metricSelect, rfl⟩ := changed_eq change
      exact .inl (congrFun (render_view _) part)
  | outdated quiet old waited => exact .inl rfl
  | loaded quiet waited loaded =>
      cases loaded with
      | failed message => exact .inl rfl
      | emptied => exact .inl rfl
      | rendered primary => exact .inl (congrFun (render_view _) part)
  | fetched quiet waited fetched =>
      obtain ⟨selects, metric⟩ := tracks.selected _ waited
      have clear := tracks.clear (by simp [waited])
      cases fetched with
      | late rejected leftover => exact .inl rfl
      | awaiting accepted same => exact .inl rfl
      | failed message leftover => exact .inl rfl
      | written thrown same requests =>
          have matched : (page.setTask page.currentRenderGen none).Matches _ :=
            ((same page).mpr selects).congr rfl rfl
          rcases clear.written_view _ thrown matched metric requests part with unchanged | shown
          · exact .inl unchanged
          · exact .inr (.inr shown)

/-- In every run of the page, a step that writes a section writes the rendering of the selection
that stands in the select boxes at that moment, over an older one if there is any. Only a resize
draws a section again. -/
theorem view_follows_selection (metricSelect : Metric) (events : List Event) (event : Event)
    (part : Section) :
    let before := run metricSelect events
    let after := before.step event
    after.view part = before.view part ∨ event = .resize ∨
      ∃ rendering, after.view part = some rendering ∧ after.Shows rendering ∧
        ∀ old, before.view part = some old → old.gen < rendering.gen :=
  (run_tracks metricSelect events).view_step event part

/-! The inventory of one node, and the answers to the two requests for it. -/

def nodeArrival : Event :=
  .nodes 1 (.ok (some [
    { nodeId := "n", capturePoint := "p", firstBucketStart := 10, lastBucketStart := 20 }]))

def nodeTelemetry : List Event := [
    nodeArrival,
    .telemetry 1 0 (.ok (.stats { batches := 1, flowBuckets := 2, packets := 3, bytes := 180 })) none,
    .telemetry 1 1 (.ok (.series [{ bucketStart := 10, packets := 3, bytes := 180 }])) none]

example : ((run .packets nodeTelemetry).view .chart).map (·.metric) = some .packets := rfl

end Dashboard

end FlowObservability
