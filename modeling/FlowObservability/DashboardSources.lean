import FlowObservability.DashboardSelection

/-!
Where what the page holds comes from: which step gave it a task, a rendering or its inventory.
-/

namespace FlowObservability

open Runs

def RenderTask.Fresh (task : RenderTask) : Prop := ∀ fetch ∈ task.fetches, fetch.outcome = none

namespace Dashboard

variable {page : Dashboard} {event : Event} {gen : Nat}

theorem setTask_tasks (page : Dashboard) (gen other : Nat) (task : Option PageTask) :
    (page.setTask gen task).tasks other = if other = gen then task else page.tasks other := by
  simp [setTask, Function.update_apply]

theorem renderDashboardInternal_eq (page : Dashboard) (gen : Nat) :
    (∃ refreshBtn, page.renderDashboardInternal gen =
      { page with currentMetric := page.metricSelect, refreshBtn }) ∨
    ∃ box, ∃ task : RenderTask, task.Fresh ∧ page.renderDashboardInternal gen =
      { page with currentMetric := page.metricSelect, compareSelect := box }.setTask gen
        (some (.render task)) := by
  unfold renderDashboardInternal
  dsimp only
  split
  · split
    · exact .inl ⟨_, rfl⟩
    · exact .inl ⟨_, rfl⟩
  · rename_i primaryItem primary
    obtain ⟨box, cleared, _⟩ := clearCompare_eq
      { page with currentMetric := page.metricSelect }
      (page.compareItem.any fun item => sameTarget item primaryItem)
    refine .inr ⟨box, renderTask primaryItem _, ?_, congrArg (setTask _ _) cleared⟩
    intro fetch member
    obtain ⟨request, _, rfl⟩ := List.mem_map.mp member
    rfl

/-- What a step can put in the place of a task: nothing new, the load of a new generation, a new
render in a new generation or after a load, or a render with one more fetch settled. -/
inductive Tasked (page : Dashboard) (event : Event) (gen : Nat) : PageTask → Prop
  | same {task} (before : page.tasks gen = some task) : Tasked page event gen task
  | load (prevPrimaryItem prevCompareItem) (new : page.currentRenderGen < gen) :
      Tasked page event gen (.load prevPrimaryItem prevCompareItem)
  | render {task : RenderTask} (fresh : task.Fresh)
      (new : page.currentRenderGen < gen ∨
        ∃ prevPrimaryItem prevCompareItem,
          page.tasks gen = some (.load prevPrimaryItem prevCompareItem)) :
      Tasked page event gen (.render task)
  | settled {task : RenderTask} {index : Nat} {outcome : Except String Telemetry}
      {thrown : Option (Section × String)} (arrived : event = .telemetry gen index outcome thrown)
      (before : page.tasks gen = some (.render task)) (awaits : task.awaits index = true) :
      Tasked page event gen (.render (task.settle index outcome))

theorem render_tasked (before : Dashboard) {current : Nat} {task : PageTask}
    (new : page.currentRenderGen < current ∨ ∃ prevPrimaryItem prevCompareItem,
      page.tasks current = some (.load prevPrimaryItem prevCompareItem))
    (same : ∀ other task, before.tasks other = some task → page.tasks other = some task)
    (found : (before.renderDashboardInternal current).tasks gen = some task) :
    page.Tasked event gen task := by
  rcases before.renderDashboardInternal_eq current with ⟨_, ended⟩ | ⟨_, render, fresh, begun⟩
  · rw [ended] at found
    exact .same (same gen task found)
  · rw [begun, setTask_tasks] at found
    split at found
    · rename_i current
      subst current
      cases found
      exact .render fresh new
    · exact .same (same gen task found)

theorem change_tasked {task : PageTask}
    (found : (match page.changed event with
      | none => page
      | some next => next.renderDashboard).tasks gen = some task) : page.Tasked event gen task := by
  split at found
  · exact .same found
  · rename_i next change
    obtain ⟨primarySelect, compareSelect, metricSelect, rfl⟩ := changed_eq change
    exact render_tasked (nextGeneration { page with primarySelect, compareSelect, metricSelect })
      (.inl (Nat.lt_succ_self _)) (fun _ _ => id) found

theorem inventoryLoaded_tasked {task : PageTask} {current : Nat}
    {prevPrimaryItem prevCompareItem : Option NodeInventoryItem}
    {result : Except String (Option (List NodeInventoryItem))}
    (waited : page.tasks current = some (.load prevPrimaryItem prevCompareItem))
    (found : ((page.setTask current none).inventoryLoaded current prevPrimaryItem prevCompareItem
      result).tasks gen = some task) : page.Tasked event gen task := by
  have same : ∀ other task, (page.setTask current none).tasks other = some task →
      page.tasks other = some task := by
    intro other task kept
    rw [setTask_tasks] at kept
    split at kept
    · cases kept
    · exact kept
  by_cases old : current = page.currentRenderGen
  · subst old
    have loaded := inventoryLoaded_current (page.setTask page.currentRenderGen none)
      prevPrimaryItem prevCompareItem result
    have current : (page.setTask page.currentRenderGen none).currentRenderGen =
        page.currentRenderGen := rfl
    rw [current] at loaded
    generalize (page.setTask page.currentRenderGen none).inventoryLoaded page.currentRenderGen
      prevPrimaryItem prevCompareItem result = next at loaded found
    cases loaded with
    | failed message => exact .same (same gen task found)
    | emptied => exact .same (same gen task found)
    | rendered primary =>
        exact render_tasked _ (.inr ⟨_, _, waited⟩) (by exact same) found
  · have ended : (page.setTask current none).inventoryLoaded current prevPrimaryItem
        prevCompareItem result = page.setTask current none := if_pos old
    rw [ended] at found
    exact .same (same gen task found)

theorem telemetryFailed_frame (page : Dashboard) (gen : Nat) (message : String) :
    (page.telemetryFailed gen message).tasks = page.tasks ∧
      (page.telemetryFailed gen message).inventory = page.inventory := by
  unfold telemetryFailed
  split
  · exact ⟨rfl, rfl⟩
  · exact ⟨rfl, rfl⟩

theorem telemetryFetched_frame (page : Dashboard) (gen : Nat) (task : RenderTask)
    (responses : List (TelemetryRequest × Telemetry)) (thrown : Option (Section × String)) :
    (page.telemetryFetched gen task responses thrown).tasks = page.tasks ∧
      (page.telemetryFetched gen task responses thrown).inventory = page.inventory := by
  unfold telemetryFetched
  split
  · exact ⟨rfl, rfl⟩
  · cases thrown with
    | none => exact ⟨rfl, rfl⟩
    | some last => exact ⟨rfl, rfl⟩

theorem fetchEnded_frame (page : Dashboard) (gen : Nat) (task : RenderTask) (index : Nat)
    (outcome : Except String Telemetry) (thrown : Option (Section × String)) :
    (page.fetchEnded gen task index outcome thrown).tasks =
        (page.setTask gen (if (task.settle index outcome).outstanding then
          some (.render (task.settle index outcome)) else none)).tasks ∧
      (page.fetchEnded gen task index outcome thrown).inventory = page.inventory := by
  unfold fetchEnded
  dsimp only
  split
  · exact ⟨rfl, rfl⟩
  · split
    · exact telemetryFailed_frame _ _ _
    · exact telemetryFetched_frame _ _ _ _ _
    · exact ⟨rfl, rfl⟩

theorem step_tasked (page : Dashboard) (event : Event) {gen : Nat} {task : PageTask}
    (found : (page.step event).tasks gen = some task) : page.Tasked event gen task := by
  cases event with
  | refresh =>
      simp only [step] at found
      split at found
      · exact .same found
      · rw [loadInventory, setTask_tasks] at found
        split at found
        · rename_i new
          cases found
          exact .load _ _ (new ▸ Nat.lt_succ_self _)
        · exact .same found
  | resize =>
      simp only [step, redrawChart] at found
      split at found
      · exact .same found
      · exact .same found
  | nodes current result =>
      simp only [step] at found
      split at found
      · rename_i waited
        exact inventoryLoaded_tasked waited found
      · exact .same found
  | telemetry current index outcome thrown =>
      simp only [step] at found
      split at found
      · rename_i before waited
        split at found
        · rename_i awaits
          rw [(fetchEnded_frame _ _ _ _ _ _).1, setTask_tasks] at found
          split at found
          · rename_i same
            subst same
            split at found
            · cases found
              exact .settled rfl waited awaits
            · cases found
          · exact .same found
        · exact .same found
      · exact .same found
  | primary value => exact change_tasked found
  | compare value => exact change_tasked found
  | metric value => exact change_tasked found

def Sourced (page : Dashboard) (event : Event) (rendering : Rendering) : Prop :=
  (∃ old, page.Rendered old ∧ old.gen = rendering.gen ∧ old.responses = rendering.responses) ∨
    ∃ (task : RenderTask) (index : Nat) (outcome : Except String Telemetry)
      (thrown : Option (Section × String)),
      event = .telemetry rendering.gen index outcome thrown ∧
      page.tasks rendering.gen = some (.render task) ∧ task.awaits index = true ∧
      (task.settle index outcome).fulfilled = some rendering.responses

theorem renderDashboardInternal_rendered {current : Nat} {rendering : Rendering}
    (rendered : (page.renderDashboardInternal current).Rendered rendering) :
    page.Rendered rendering := by
  rcases page.renderDashboardInternal_eq current with ⟨_, ended⟩ | ⟨_, _, _, begun⟩
  · rw [ended] at rendered
    exact rendered
  · rw [begun] at rendered
    exact rendered

theorem redrawChart_responses {rendering : Rendering}
    (rendered : page.redrawChart.Rendered rendering) :
    ∃ old, page.Rendered old ∧ old.gen = rendering.gen ∧ old.responses = rendering.responses := by
  unfold redrawChart at rendered
  split at rendered
  · exact ⟨rendering, rendered, rfl, rfl⟩
  · rename_i last kept
    rcases rendered with same | ⟨part, shown⟩
    · exact ⟨rendering, .inl same, rfl, rfl⟩
    · dsimp only at shown
      by_cases chart : part = .chart
      · subst chart
        rw [Function.update_self] at shown
        cases shown
        exact ⟨last, .inl kept, rfl, rfl⟩
      · rw [Function.update_of_ne chart] at shown
        exact ⟨rendering, .inr ⟨part, shown⟩, rfl, rfl⟩

theorem inventoryLoaded_rendered {current : Nat} {rendering : Rendering}
    {prevPrimaryItem prevCompareItem : Option NodeInventoryItem}
    {result : Except String (Option (List NodeInventoryItem))}
    (rendered : (page.inventoryLoaded current prevPrimaryItem prevCompareItem result).Rendered
      rendering) : page.Rendered rendering := by
  by_cases old : current = page.currentRenderGen
  · subst old
    have loaded := inventoryLoaded_current page prevPrimaryItem prevCompareItem result
    generalize page.inventoryLoaded page.currentRenderGen prevPrimaryItem prevCompareItem
      result = next at loaded rendered
    cases loaded with
    | failed message => exact rendered
    | emptied => exact rendered
    | rendered primary =>
        have before := renderDashboardInternal_rendered rendered
        exact before
  · have ended : page.inventoryLoaded current prevPrimaryItem prevCompareItem result = page :=
      if_pos old
    rw [ended] at rendered
    exact rendered

theorem telemetryFailed_rendered {message : String} {rendering : Rendering}
    (rendered : (page.telemetryFailed gen message).Rendered rendering) :
    page.Rendered rendering := by
  unfold telemetryFailed at rendered
  split at rendered
  · exact rendered
  · exact rendered

theorem telemetryFetched_rendered {task : RenderTask}
    {responses : List (TelemetryRequest × Telemetry)} {thrown : Option (Section × String)}
    {rendering : Rendering}
    (rendered : (page.telemetryFetched gen task responses thrown).Rendered rendering) :
    page.Rendered rendering ∨ rendering.gen = gen ∧ rendering.responses = responses := by
  by_cases old : gen = page.currentRenderGen
  · subst old
    obtain ⟨_, _, _, _, written⟩ := telemetryFetched_eq page task responses thrown
    rw [written] at rendered
    rcases writeSections_rendered rendered with rfl | before
    · exact .inr ⟨rfl, rfl⟩
    · exact .inl before
  · rw [telemetryFetched, if_pos old] at rendered
    exact .inl rendered

theorem fetchEnded_sourced {task : RenderTask} {index : Nat} {outcome : Except String Telemetry}
    {thrown : Option (Section × String)} (waited : page.tasks gen = some (.render task))
    (awaits : task.awaits index = true) {rendering : Rendering}
    (rendered : (page.fetchEnded gen task index outcome thrown).Rendered rendering) :
    page.Sourced (.telemetry gen index outcome thrown) rendering := by
  unfold fetchEnded at rendered
  dsimp only at rendered
  split at rendered
  · exact .inl ⟨rendering, rendered, rfl, rfl⟩
  · split at rendered
    · have before := telemetryFailed_rendered rendered
      exact .inl ⟨rendering, before, rfl, rfl⟩
    · rename_i responses fulfilled
      rcases telemetryFetched_rendered rendered with before | ⟨rfl, rfl⟩
      · exact .inl ⟨rendering, before, rfl, rfl⟩
      · exact .inr ⟨task, index, _, thrown, rfl, waited, awaits, fulfilled⟩
    · exact .inl ⟨rendering, rendered, rfl, rfl⟩

theorem step_sourced (page : Dashboard) (event : Event) {rendering : Rendering}
    (rendered : (page.step event).Rendered rendering) : page.Sourced event rendering := by
  have changes : (match page.changed event with
      | none => page
      | some next => next.renderDashboard).Rendered rendering → page.Rendered rendering := by
    intro after
    split at after
    · exact after
    · rename_i next change
      obtain ⟨primarySelect, compareSelect, metricSelect, rfl⟩ := changed_eq change
      have before := renderDashboardInternal_rendered after
      exact before
  cases event with
  | refresh =>
      simp only [step] at rendered
      split at rendered
      · exact .inl ⟨rendering, rendered, rfl, rfl⟩
      · exact .inl ⟨rendering, rendered, rfl, rfl⟩
  | resize => exact .inl (redrawChart_responses rendered)
  | nodes current result =>
      simp only [step] at rendered
      split at rendered
      · have before := inventoryLoaded_rendered rendered
        exact .inl ⟨rendering, before, rfl, rfl⟩
      · exact .inl ⟨rendering, rendered, rfl, rfl⟩
  | telemetry current index outcome thrown =>
      simp only [step] at rendered
      split at rendered
      · rename_i waited
        split at rendered
        · rename_i awaits
          exact fetchEnded_sourced waited awaits rendered
        · exact .inl ⟨rendering, rendered, rfl, rfl⟩
      · exact .inl ⟨rendering, rendered, rfl, rfl⟩
  | primary value => exact .inl ⟨rendering, changes rendered, rfl, rfl⟩
  | compare value => exact .inl ⟨rendering, changes rendered, rfl, rfl⟩
  | metric value => exact .inl ⟨rendering, changes rendered, rfl, rfl⟩

def Stocked (page : Dashboard) (event : Event) (inventory : List NodeInventoryItem) : Prop :=
  inventory = page.inventory ∨ ∃ gen items prevPrimaryItem prevCompareItem,
    event = .nodes gen (.ok items) ∧ page.tasks gen = some (.load prevPrimaryItem prevCompareItem) ∧
      inventory = items.getD []

theorem renderDashboardInternal_inventory (page : Dashboard) (gen : Nat) :
    (page.renderDashboardInternal gen).inventory = page.inventory := by
  rcases page.renderDashboardInternal_eq gen with ⟨_, ended⟩ | ⟨_, _, _, begun⟩
  · rw [ended]
  · rw [begun]
    rfl

theorem inventoryLoaded_inventory (page : Dashboard) (gen : Nat)
    (prevPrimaryItem prevCompareItem : Option NodeInventoryItem)
    (result : Except String (Option (List NodeInventoryItem))) :
    (page.inventoryLoaded gen prevPrimaryItem prevCompareItem result).inventory = page.inventory ∨
      ∃ items, result = .ok items ∧
        (page.inventoryLoaded gen prevPrimaryItem prevCompareItem result).inventory =
          items.getD [] := by
  unfold inventoryLoaded
  split
  · exact .inl rfl
  · cases result with
    | error message => exact .inl rfl
    | ok items =>
        refine .inr ⟨items, rfl, ?_⟩
        dsimp only
        split
        · rfl
        · rw [renderDashboardInternal_inventory]
          obtain ⟨box, updated, _⟩ := updateCompareOptionsDisabled_eq
            ((populateSelects { page with
                inventory := items.getD [], errorBanner := none
                emptyState := false }).reconcileSelection prevPrimaryItem prevCompareItem)
          exact congrArg Dashboard.inventory updated

theorem step_stocked (page : Dashboard) (event : Event) :
    page.Stocked event (page.step event).inventory := by
  have changes : (match page.changed event with
      | none => page
      | some next => next.renderDashboard).inventory = page.inventory := by
    split
    · rfl
    · rename_i next change
      obtain ⟨primarySelect, compareSelect, metricSelect, rfl⟩ := changed_eq change
      exact renderDashboardInternal_inventory _ _
  cases event with
  | refresh =>
      simp only [step]
      split
      · exact .inl rfl
      · exact .inl rfl
  | resize =>
      simp only [step, redrawChart]
      split
      · exact .inl rfl
      · exact .inl rfl
  | nodes gen result =>
      simp only [step]
      split
      · rename_i prevPrimaryItem prevCompareItem waited
        rcases inventoryLoaded_inventory (page.setTask gen none) gen prevPrimaryItem
          prevCompareItem result with kept | ⟨items, rfl, loaded⟩
        · exact .inl kept
        · exact .inr ⟨gen, items, _, _, rfl, waited, loaded⟩
      · exact .inl rfl
  | telemetry gen index outcome thrown =>
      refine .inl ?_
      simp only [step]
      split
      · split
        · exact (fetchEnded_frame _ _ _ _ _ _).2
        · rfl
      · rfl
  | primary value => exact .inl changes
  | compare value => exact .inl changes
  | metric value => exact .inl changes

theorem renderDashboardInternal_gen (page : Dashboard) (gen : Nat) :
    (page.renderDashboardInternal gen).currentRenderGen = page.currentRenderGen := by
  rcases page.renderDashboardInternal_eq gen with ⟨_, ended⟩ | ⟨_, _, _, begun⟩
  · rw [ended]
  · rw [begun]
    rfl

theorem step_gen (page : Dashboard) (event : Event) :
    page.currentRenderGen ≤ (page.step event).currentRenderGen := by
  have moves := page.step_moves event
  generalize page.step event = next at moves
  cases moves with
  | idle quiet => exact le_rfl
  | resized resize =>
      unfold redrawChart
      split
      · exact le_rfl
      · exact le_rfl
  | refreshed refresh enabled => exact Nat.le_succ _
  | changed change =>
      obtain ⟨primarySelect, compareSelect, metricSelect, rfl⟩ := changed_eq change
      rw [renderDashboard, renderDashboardInternal_gen]
      exact Nat.le_succ _
  | outdated quiet old waited => exact le_rfl
  | loaded quiet waited loaded =>
      cases loaded with
      | failed message => exact le_rfl
      | emptied => exact le_rfl
      | rendered primary =>
          rw [renderDashboardInternal_gen]
          exact le_rfl
  | fetched quiet waited fetched =>
      cases fetched with
      | late rejected leftover => exact le_rfl
      | awaiting accepted same => exact le_rfl
      | failed message leftover => exact le_rfl
      | written thrown same requests =>
          obtain ⟨_, _, _, _, written⟩ := telemetryFetched_eq
            (page.setTask page.currentRenderGen none) _ _ thrown
          exact (congrArg Dashboard.currentRenderGen written).ge

end Dashboard

end FlowObservability
