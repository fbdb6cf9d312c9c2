import FlowObservability.Dashboard

/-!
What one step of the dashboard can do, told apart by the generation it belongs to.
-/

namespace FlowObservability

open Transaction

namespace Dashboard

variable {page next : Dashboard} {event : Event} {gen : Nat}

structure Selects (page : Dashboard) (primaryItem : NodeInventoryItem)
    (compareItem : Option NodeInventoryItem) (fromSecs toSecs : UInt64)
    (requests : List TelemetryRequest) : Prop where
  primary : page.primaryItem = some primaryItem
  compare : page.compareItem = compareItem
  distinct : ∀ item ∈ compareItem, sameTarget item primaryItem = false
  window : (fromSecs, toSecs) = timeWindow primaryItem compareItem
  requests : requests = telemetryRequests primaryItem compareItem fromSecs toSecs

def Matches (page : Dashboard) (task : RenderTask) : Prop :=
  page.Selects task.primaryItem task.compareItem task.fromSecs task.toSecs
    (task.fetches.map (·.request))

theorem Matches.congr {other : Dashboard} {task : RenderTask} (selects : page.Matches task)
    (primary : other.primaryItem = page.primaryItem)
    (compare : other.compareItem = page.compareItem) : other.Matches task :=
  ⟨primary.trans selects.primary, compare.trans selects.compare, selects.distinct, selects.window,
    selects.requests⟩

theorem updateCompareOptionsDisabled_eq (page : Dashboard) :
    ∃ box, page.updateCompareOptionsDisabled = { page with compareSelect := box } ∧
      box.value = page.compareSelect.value := by
  unfold updateCompareOptionsDisabled
  split
  · exact ⟨page.compareSelect, rfl, rfl⟩
  · exact ⟨_, rfl, rfl⟩

theorem choose_none (box : SelectBox) : (box.choose none).value = none := by
  simp [SelectBox.choose]

theorem clearCompare_eq (page : Dashboard) (identical : Bool) :
    ∃ box, (if identical then { page with compareSelect := page.compareSelect.choose none }
        else page).updateCompareOptionsDisabled = { page with compareSelect := box } ∧
      page.item box.value = if identical then none else page.compareItem := by
  cases identical with
  | false =>
      obtain ⟨box, updated, value⟩ := updateCompareOptionsDisabled_eq page
      exact ⟨box, updated, congrArg page.item value⟩
  | true =>
      obtain ⟨box, updated, value⟩ := updateCompareOptionsDisabled_eq
        { page with compareSelect := page.compareSelect.choose none }
      refine ⟨box, updated, ?_⟩
      rw [value]
      exact congrArg page.item (choose_none page.compareSelect)

def renderTask (primaryItem : NodeInventoryItem) (compareItem : Option NodeInventoryItem) :
    RenderTask :=
  let (fromSecs, toSecs) := timeWindow primaryItem compareItem
  { primaryItem, compareItem, fromSecs, toSecs
    fetches := (telemetryRequests primaryItem compareItem fromSecs toSecs).map fun request =>
      { request } }

theorem renderTask_rejected (primaryItem : NodeInventoryItem)
    (compareItem : Option NodeInventoryItem) :
    (renderTask primaryItem compareItem).rejected = false := by
  simp [renderTask, RenderTask.rejected, Fetch.rejected]

theorem renderTask_matches {primaryItem : NodeInventoryItem}
    {compareItem : Option NodeInventoryItem} (primary : page.primaryItem = some primaryItem)
    (compare : page.compareItem = compareItem)
    (distinct : ∀ item ∈ compareItem, sameTarget item primaryItem = false) :
    page.Matches (renderTask primaryItem compareItem) := by
  refine ⟨primary, compare, distinct, rfl, ?_⟩
  simp [renderTask, Function.comp_def]

theorem renderDashboardInternal_cases (page : Dashboard) :
    (page.primaryItem = none ∧ page.renderDashboardInternal page.currentRenderGen =
      { page with currentMetric := page.metricSelect }.unlockRefresh) ∨
    ∃ box task, page.renderDashboardInternal page.currentRenderGen =
        { page with currentMetric := page.metricSelect, compareSelect := box }.setTask
          page.currentRenderGen (some (.render task)) ∧
      { page with currentMetric := page.metricSelect, compareSelect := box }.Matches task ∧
      task.rejected = false := by
  unfold renderDashboardInternal
  dsimp only
  split
  · rename_i nothing
    exact .inl ⟨nothing, if_pos rfl⟩
  · rename_i primaryItem primary
    right
    obtain ⟨box, cleared, compare⟩ := clearCompare_eq
      { page with currentMetric := page.metricSelect }
      (page.compareItem.any fun item => sameTarget item primaryItem)
    refine ⟨box, _, congrArg (setTask _ _) cleared, renderTask_matches primary compare ?_,
      renderTask_rejected _ _⟩
    intro item member
    split at member
    · cases member
    · rename_i different
      have standing : page.compareItem = some item := member
      have apart : ¬(page.compareItem.any fun other => sameTarget other primaryItem) = true :=
        different
      simpa [standing] using apart

theorem changed_eq (change : page.changed event = some next) :
    ∃ primarySelect compareSelect metricSelect,
      next = { page with primarySelect, compareSelect, metricSelect } := by
  cases event with
  | primary value =>
      simp only [changed] at change
      split at change
      · obtain ⟨box, cleared, _⟩ := clearCompare_eq
          { page with primarySelect := page.primarySelect.choose value }
          ({ page with primarySelect := page.primarySelect.choose value }.primaryItem.any
            fun item => page.compareItem.any (sameTarget item))
        cases change
        exact ⟨_, box, _, cleared⟩
      · cases change
  | compare value =>
      simp only [changed] at change
      split at change
      · cases change
        exact ⟨_, _, _, rfl⟩
      · cases change
  | metric value =>
      cases change
      exact ⟨_, _, _, rfl⟩
  | refresh => cases change
  | resize => cases change
  | nodes gen result => cases change
  | telemetry gen index outcome thrown => cases change

inductive Loaded (page : Dashboard) : Dashboard → Prop
  | failed (message : String) : Loaded page (page.showError message)
  | emptied : Loaded page ({ page with
      inventory := [], errorBanner := none, emptyState := true, dashboardContent := false }.setBadge
        "" "Empty").unlockRefresh
  | rendered {inventory : List NodeInventoryItem} {primarySelect compareSelect : SelectBox}
      (primary : { page with
        inventory, errorBanner := none, emptyState := false, primarySelect
        compareSelect }.primaryItem ≠ none) :
      Loaded page ({ page with
        inventory, errorBanner := none, emptyState := false, primarySelect
        compareSelect }.renderDashboardInternal page.currentRenderGen)

theorem findTarget_lt {prev : NodeInventoryItem} {index : Nat}
    (found : page.findTarget prev = some index) : index < page.inventory.length := by
  obtain ⟨bound, _⟩ := List.findIdx?_eq_some_iff_getElem.mp found
  exact bound

theorem reconcileSelection_eq (page : Dashboard)
    (prevPrimaryItem prevCompareItem : Option NodeInventoryItem) (nonempty : page.inventory ≠ []) :
    ∃ primarySelect compareSelect,
      page.populateSelects.reconcileSelection prevPrimaryItem prevCompareItem =
        { page with primarySelect, compareSelect } ∧
      { page with primarySelect, compareSelect }.primaryItem ≠ none := by
  refine ⟨_, _, rfl, ?_⟩
  have bound : (prevPrimaryItem.bind fun item => page.populateSelects.findTarget item).getD 0 <
      page.inventory.length := by
    cases found : prevPrimaryItem.bind fun item => page.populateSelects.findTarget item with
    | none => exact List.length_pos_of_ne_nil nonempty
    | some index =>
        obtain ⟨prev, _, located⟩ := Option.bind_eq_some_iff.mp found
        exact findTarget_lt located
  have chosen (index : Nat) (below : index < page.inventory.length) :
      (page.populateSelects.primarySelect.choose (some index)).value = some index := by
    simp [populateSelects, SelectBox.choose, below]
  simp only [primaryItem, item, chosen _ bound, Option.bind_some]
  rw [List.getElem?_eq_getElem bound]
  exact Option.some_ne_none _

theorem inventoryLoaded_current (page : Dashboard)
    (prevPrimaryItem prevCompareItem : Option NodeInventoryItem)
    (result : Except String (Option (List NodeInventoryItem))) :
    page.Loaded (page.inventoryLoaded page.currentRenderGen prevPrimaryItem prevCompareItem
      result) := by
  unfold inventoryLoaded
  rw [if_neg (not_not.mpr rfl)]
  cases result with
  | error message => exact .failed _
  | ok nextInventory =>
      dsimp only
      generalize nextInventory.getD [] = inventory
      split
      · rename_i empty
        have none : inventory = [] := empty
        subst none
        exact .emptied
      · rename_i nonempty
        obtain ⟨primarySelect, compareSelect, reconciled, primary⟩ := reconcileSelection_eq
          { page with inventory, errorBanner := none, emptyState := false } prevPrimaryItem
          prevCompareItem nonempty
        obtain ⟨box, updated, _⟩ := updateCompareOptionsDisabled_eq
          { page with inventory, errorBanner := none, emptyState := false, primarySelect
                      compareSelect }
        have prepared := congrArg updateCompareOptionsDisabled reconciled
        exact (prepared.trans updated).symm ▸ .rendered primary

end Dashboard

theorem Fetch.fulfilled_eq_some {fetch : Fetch} {response : TelemetryRequest × Telemetry}
    (fulfilled : fetch.fulfilled = some response) :
    fetch.request = response.1 ∧ fetch.outcome = some (.ok response.2) := by
  unfold Fetch.fulfilled at fulfilled
  split at fulfilled
  · rename_i body settled
    cases fulfilled
    exact ⟨rfl, settled⟩
  · cases fulfilled

namespace RenderTask

variable {task : RenderTask} {index : Nat} {outcome : Except String Telemetry}
  {responses : List (TelemetryRequest × Telemetry)}

theorem settle_requests (task : RenderTask) (index : Nat) (outcome : Except String Telemetry) :
    (task.settle index outcome).fetches.map (·.request) = task.fetches.map (·.request) := by
  apply List.ext_getElem?
  intro position
  simp only [settle, List.getElem?_map, List.getElem?_modify]
  split
  · cases task.fetches[position]? <;> rfl
  · cases task.fetches[position]? <;> rfl

theorem mem_settle {fetch : Fetch} (member : fetch ∈ (task.settle index outcome).fetches) :
    fetch ∈ task.fetches ∨ fetch.outcome = some outcome := by
  obtain ⟨position, found⟩ := List.mem_iff_getElem?.mp member
  simp only [settle, List.getElem?_modify] at found
  split at found
  · obtain ⟨before, _, rfl⟩ := Option.map_eq_some_iff.mp found
    exact .inr rfl
  · exact .inl (List.mem_of_getElem? (by simpa using found))

theorem fulfilled_eq_some {fetches : List Fetch}
    (fulfilled : fetches.mapM (·.fulfilled) = some responses) :
    List.Forall₂ (fun fetch response => fetch.fulfilled = some response) fetches responses := by
  induction fetches generalizing responses with
  | nil =>
      cases fulfilled
      exact .nil
  | cons fetch rest ih =>
      rw [List.mapM_cons] at fulfilled
      obtain ⟨first, found, fulfilled⟩ := Option.bind_eq_some_iff.mp fulfilled
      obtain ⟨others, later, fulfilled⟩ := Option.bind_eq_some_iff.mp fulfilled
      cases fulfilled
      exact .cons found (ih later)

theorem fulfilled_of_ok {fetches : List Fetch} (all : ∀ fetch ∈ fetches, fetch.fulfilled ≠ none) :
    fetches.mapM (·.fulfilled) ≠ none := by
  induction fetches with
  | nil => exact Option.some_ne_none _
  | cons fetch rest ih =>
      obtain ⟨first, later⟩ := List.forall_mem_cons.mp all
      obtain ⟨response, found⟩ := Option.ne_none_iff_exists'.mp first
      obtain ⟨responses, others⟩ := Option.ne_none_iff_exists'.mp (ih later)
      rw [List.mapM_cons, found, others]
      exact Option.some_ne_none _

theorem fulfilled_requests (fulfilled : task.fulfilled = some responses) :
    responses.map Prod.fst = task.fetches.map (·.request) := by
  have pairs := fulfilled_eq_some fulfilled
  clear fulfilled
  generalize task.fetches = fetches at pairs
  induction pairs with
  | nil => rfl
  | cons first _ ih =>
      rw [List.map_cons, List.map_cons, ih, (Fetch.fulfilled_eq_some first).1]

theorem fulfilled_settled (fulfilled : task.fulfilled = some responses) :
    task.outstanding = false := by
  rw [outstanding, List.any_eq_false]
  intro fetch member
  obtain ⟨response, _, found⟩ := (forall₂_mem (fulfilled_eq_some fulfilled)).1 fetch member
  simp [(Fetch.fulfilled_eq_some found).2]

theorem outstanding_of_awaiting (accepted : task.rejected = false)
    (waiting : task.fulfilled = none) : task.outstanding = true := by
  by_contra settled
  rw [outstanding, Bool.not_eq_true, List.any_eq_false] at settled
  rw [rejected, List.any_eq_false] at accepted
  apply fulfilled_of_ok ?_ waiting
  intro fetch member
  have ended := settled fetch member
  have resolved := accepted fetch member
  unfold Fetch.rejected at resolved
  unfold Fetch.fulfilled
  cases outcome : fetch.outcome with
  | none => simp [outcome] at ended
  | some result =>
      cases result with
      | error message => simp [outcome] at resolved
      | ok body => simp

theorem settle_rejected (accepted : task.rejected = false) (index : Nat) (body : Telemetry) :
    (task.settle index (.ok body)).rejected = false := by
  rw [rejected, List.any_eq_false] at accepted ⊢
  intro fetch member
  rcases mem_settle member with before | settled
  · exact accepted fetch before
  · simp [Fetch.rejected, settled]

theorem settle_late (awaits : task.awaits index = true) (failed : task.rejected = true) :
    (task.settle index outcome).rejected = true := by
  obtain ⟨fetch, member, ended⟩ := List.any_eq_true.mp failed
  obtain ⟨position, found⟩ := List.mem_iff_getElem?.mp member
  have apart : index ≠ position := by
    rintro rfl
    rw [RenderTask.awaits, found, Option.any_some, Option.isNone_iff_eq_none] at awaits
    simp [Fetch.rejected, awaits] at ended
  have kept : (task.settle index outcome).fetches[position]? = some fetch := by
    simp [settle, apart, found]
  exact List.any_eq_true.mpr ⟨fetch, List.mem_of_getElem? kept, ended⟩

theorem settle_failed (awaits : task.awaits index = true) (message : String) :
    (task.settle index (.error message)).rejected = true := by
  cases found : task.fetches[index]? with
  | none => simp [RenderTask.awaits, found] at awaits
  | some fetch =>
      have ended : (task.settle index (.error message)).fetches[index]? =
          some { fetch with outcome := some (.error message) } := by
        simp [settle, found]
      exact List.any_eq_true.mpr ⟨_, List.mem_of_getElem? ended, rfl⟩

end RenderTask

namespace Dashboard

variable {page next : Dashboard} {event : Event} {gen : Nat}

/-- A render that has been rejected is kept only for the fetches that have not ended. -/
def Leftover (task : RenderTask) (next : Option PageTask) : Prop :=
  ∀ other, next = some other → ∃ settled, other = .render settled ∧ settled.rejected = true ∧
    ∀ page : Dashboard, page.Matches settled ↔ page.Matches task

inductive Fetched (page : Dashboard) (task : RenderTask) : Dashboard → Prop
  | late {next : Option PageTask} (rejected : task.rejected = true)
      (leftover : Leftover task next) :
      Fetched page task (page.setTask page.currentRenderGen next)
  | awaiting {settled : RenderTask} (accepted : settled.rejected = false)
      (same : ∀ page : Dashboard, page.Matches settled ↔ page.Matches task) :
      Fetched page task (page.setTask page.currentRenderGen (some (.render settled)))
  | failed {next : Option PageTask} (message : String) (leftover : Leftover task next) :
      Fetched page task ((page.setTask page.currentRenderGen next).showError message)
  | written {settled : RenderTask} {responses : List (TelemetryRequest × Telemetry)}
      (thrown : Option (Section × String))
      (same : ∀ page : Dashboard, page.Matches settled ↔ page.Matches task)
      (requests : responses.map Prod.fst = settled.fetches.map (·.request)) :
      Fetched page task ((page.setTask page.currentRenderGen none).telemetryFetched
        page.currentRenderGen settled responses thrown)

theorem settle_matches (page : Dashboard) (task : RenderTask) (index : Nat)
    (outcome : Except String Telemetry) :
    page.Matches (task.settle index outcome) ↔ page.Matches task := by
  rw [Matches, RenderTask.settle_requests]
  rfl

theorem settle_leftover {task : RenderTask} {index : Nat} {outcome : Except String Telemetry}
    (rejected : (task.settle index outcome).rejected = true) :
    Leftover task (if (task.settle index outcome).outstanding then
      some (.render (task.settle index outcome)) else none) := by
  intro other kept
  split at kept
  · cases kept
    exact ⟨_, rfl, rejected, fun page => settle_matches page task index outcome⟩
  · cases kept

theorem telemetryFailed_current (page : Dashboard) (task : Option PageTask) (message : String) :
    (page.setTask page.currentRenderGen task).telemetryFailed page.currentRenderGen message =
      (page.setTask page.currentRenderGen task).showError
        ("Failed to fetch telemetry: " ++ message) :=
  if_neg (not_not.mpr rfl)

theorem fetchEnded_current (page : Dashboard) {task : RenderTask} {index : Nat}
    (awaits : task.awaits index = true) (outcome : Except String Telemetry)
    (thrown : Option (Section × String)) :
    page.Fetched task (page.fetchEnded page.currentRenderGen task index outcome thrown) := by
  unfold fetchEnded
  dsimp only
  split
  · rename_i rejected
    exact .late rejected (settle_leftover (RenderTask.settle_late awaits rejected))
  · rename_i accepted
    rw [Bool.not_eq_true] at accepted
    cases outcome with
    | error message =>
        dsimp only
        rw [telemetryFailed_current]
        exact .failed _ (settle_leftover (RenderTask.settle_failed awaits message))
    | ok body =>
        have resolved := RenderTask.settle_rejected accepted index body
        have same := fun page : Dashboard => settle_matches page task index (.ok body)
        cases fulfilled : (task.settle index (.ok body)).fulfilled with
        | none =>
            rw [if_pos (RenderTask.outstanding_of_awaiting resolved fulfilled)]
            exact .awaiting resolved same
        | some responses =>
            rw [RenderTask.fulfilled_settled fulfilled]
            exact .written thrown same (RenderTask.fulfilled_requests fulfilled)

theorem fetchEnded_outdated (page : Dashboard) (old : gen ≠ page.currentRenderGen)
    (task : RenderTask) (index : Nat) (outcome : Except String Telemetry)
    (thrown : Option (Section × String)) :
    ∃ next, page.fetchEnded gen task index outcome thrown = page.setTask gen next := by
  refine ⟨if (task.settle index outcome).outstanding then
    some (.render (task.settle index outcome)) else none, ?_⟩
  unfold fetchEnded
  dsimp only
  split
  · rfl
  · split
    · exact if_pos old
    · exact if_pos old
    · rfl

def starts (page : Dashboard) : Event → Bool
  | .refresh => !page.refreshBtn.disabled
  | event => (page.changed event).isSome

inductive Moves (page : Dashboard) (event : Event) : Dashboard → Prop
  | idle (quiet : page.starts event = false) : Moves page event page
  | resized (resize : event = .resize) : Moves page event page.redrawChart
  | refreshed (refresh : event = .refresh) (enabled : page.refreshBtn.disabled = false) :
      Moves page event page.loadInventory
  | changed {next : Dashboard} (change : page.changed event = some next) :
      Moves page event next.renderDashboard
  | outdated {gen : Nat} {task : Option PageTask} (quiet : page.starts event = false)
      (old : gen ≠ page.currentRenderGen) (waited : page.tasks gen ≠ none) :
      Moves page event (page.setTask gen task)
  | loaded {next : Dashboard} {prevPrimaryItem prevCompareItem : Option NodeInventoryItem}
      (quiet : page.starts event = false)
      (waited : page.tasks page.currentRenderGen = some (.load prevPrimaryItem prevCompareItem))
      (loaded : (page.setTask page.currentRenderGen none).Loaded next) : Moves page event next
  | fetched {next : Dashboard} {task : RenderTask} (quiet : page.starts event = false)
      (waited : page.tasks page.currentRenderGen = some (.render task))
      (fetched : page.Fetched task next) : Moves page event next

theorem change_moves (silent : page.changed event = none → page.starts event = false) :
    page.Moves event (match page.changed event with
      | none => page
      | some next => next.renderDashboard) := by
  split
  · rename_i nothing
    exact .idle (silent nothing)
  · rename_i next change
    exact .changed change

theorem nodes_moves (page : Dashboard) (gen : Nat)
    (result : Except String (Option (List NodeInventoryItem))) :
    page.Moves (.nodes gen result) (page.step (.nodes gen result)) := by
  simp only [step]
  split
  · rename_i prevPrimaryItem prevCompareItem waited
    by_cases old : gen = page.currentRenderGen
    · subst old
      exact .loaded rfl waited (inventoryLoaded_current _ prevPrimaryItem prevCompareItem result)
    · have ended : (page.setTask gen none).inventoryLoaded gen prevPrimaryItem prevCompareItem
          result = page.setTask gen none := if_pos old
      rw [ended]
      exact .outdated rfl old (by simp [waited])
  · exact .idle rfl

theorem telemetry_moves (page : Dashboard) (gen index : Nat) (outcome : Except String Telemetry)
    (thrown : Option (Section × String)) :
    page.Moves (.telemetry gen index outcome thrown)
      (page.step (.telemetry gen index outcome thrown)) := by
  simp only [step]
  split
  · rename_i task waited
    split
    · rename_i awaits
      by_cases old : gen = page.currentRenderGen
      · subst old
        exact .fetched rfl waited (fetchEnded_current page awaits outcome thrown)
      · obtain ⟨next, ended⟩ := fetchEnded_outdated page old task index outcome thrown
        rw [ended]
        exact .outdated rfl old (by simp [waited])
    · exact .idle rfl
  · exact .idle rfl

theorem step_moves (page : Dashboard) (event : Event) : page.Moves event (page.step event) := by
  cases event with
  | refresh =>
      simp only [step]
      split
      · rename_i disabled
        exact .idle (by simp [starts, disabled])
      · rename_i enabled
        exact .refreshed rfl (by simpa using enabled)
  | resize => exact .resized rfl
  | primary value => exact change_moves fun nothing => by simp [starts, nothing]
  | compare value => exact change_moves fun nothing => by simp [starts, nothing]
  | metric value => exact change_moves fun nothing => by simp [starts, nothing]
  | nodes gen result => exact nodes_moves page gen result
  | telemetry gen index outcome thrown => exact telemetry_moves page gen index outcome thrown

end Dashboard

end FlowObservability
