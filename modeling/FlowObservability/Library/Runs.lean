import Mathlib.Data.List.Basic
import Mathlib.Data.List.Forall2
import Mathlib.Data.List.Induction

/-!
Runs of a deterministic system: every schedule of actions is a list, and what one
step keeps, a whole run keeps.
-/

namespace Runs

variable {σ α : Type} {step : σ → α → σ} {start : σ} {actions : List α}

def run (step : σ → α → σ) (start : σ) (actions : List α) : σ := actions.foldl step start

@[simp] theorem run_nil : run step start [] = start := rfl

@[simp] theorem run_snoc (action : α) :
    run step start (actions ++ [action]) = step (run step start actions) action := by
  simp [run]

@[simp] theorem run_cons (action : α) :
    run step start (action :: actions) = run step (step start action) actions := rfl

theorem run_append (later : List α) :
    run step start (actions ++ later) = run step (run step start actions) later :=
  List.foldl_append

/-- What holds before a step whenever it holds after it, holds of every earlier state of a run. -/
theorem run_earlier {assumed : σ → Prop} {later : List α}
    (earlier : ∀ state action, assumed (step state action) → assumed state)
    (final : assumed (run step start (actions ++ later))) : assumed (run step start actions) := by
  induction later using List.reverseRecOn with
  | nil => simpa using final
  | append_singleton later action ih =>
      rw [← List.append_assoc, run_snoc] at final
      exact ih (earlier _ _ final)

theorem run_invariant {holds : σ → Prop} (initial : holds start)
    (keeps : ∀ state action, action ∈ actions → holds state → holds (step state action)) :
    holds (run step start actions) := by
  induction actions using List.reverseRecOn with
  | nil => exact initial
  | append_singleton actions action ih =>
      rw [run_snoc]
      apply keeps _ _ (by simp)
      exact ih fun state other member => keeps state other (by simp [member])

/-- The invariant rule under an assumption about the run that holds of every state before one
where it holds. -/
theorem run_invariant_under {assumed holds : σ → Prop} (initial : holds start)
    (earlier : ∀ state action, assumed (step state action) → assumed state)
    (keeps : ∀ state action, assumed (step state action) → holds state →
      holds (step state action)) (final : assumed (run step start actions)) :
    holds (run step start actions) := by
  induction actions using List.reverseRecOn with
  | nil => exact initial
  | append_singleton actions action ih =>
      rw [run_snoc] at final ⊢
      exact keeps _ _ final (ih (earlier _ _ final))

/-- The invariant rule under such an assumption, with the part of this run that led to the state. -/
theorem run_invariant_within {assumed holds : σ → Prop} (initial : holds start)
    (earlier : ∀ state action, assumed (step state action) → assumed state)
    (keeps : ∀ before action, before ++ [action] <+: actions →
      assumed (step (run step start before) action) → holds (run step start before) →
      holds (step (run step start before) action)) (final : assumed (run step start actions)) :
    holds (run step start actions) := by
  induction actions using List.reverseRecOn with
  | nil => exact initial
  | append_singleton actions action ih =>
      rw [run_snoc] at final ⊢
      apply keeps _ _ List.prefix_rfl final
      refine ih (fun before other within => ?_) (earlier _ _ final)
      exact keeps before other (within.trans (List.prefix_append _ _))

/-- Where each step of a system is a run of another one, seen through `view`, each run is the parts
its steps turn into, one after another. `allowed` says what a step may turn into. -/
theorem run_realised {τ β : Type} (view : σ → τ) {other : τ → β → τ} (allowed : α → List β → Prop)
    (holds : σ → Prop) (initial : holds start)
    (realised : ∀ state action, holds state → holds (step state action) ∧
      ∃ part, view (step state action) = run other (view state) part ∧ allowed action part) :
    holds (run step start actions) ∧ ∃ parts, List.Forall₂ allowed actions parts ∧
      ∀ count, view (run step start (actions.take count)) =
        run other (view start) (parts.take count).flatten := by
  induction actions using List.reverseRecOn with
  | nil => exact ⟨initial, [], .nil, by simp⟩
  | append_singleton actions action ih =>
      obtain ⟨before, parts, matched, same⟩ := ih
      obtain ⟨after, part, stepped, allows⟩ := realised _ action before
      have whole := same actions.length
      rw [List.take_length, matched.length_eq, List.take_length] at whole
      rw [run_snoc]
      refine ⟨after, parts ++ [part], List.rel_append matched (.cons allows .nil), fun count => ?_⟩
      by_cases early : count ≤ actions.length
      · rw [List.take_append_of_le_length early,
          List.take_append_of_le_length (matched.length_eq ▸ early)]
        exact same count
      · have late := Nat.lt_of_not_le early
        have length := matched.length_eq
        rw [List.take_of_length_le (by simp; omega), List.take_of_length_le (by simp; omega), run_snoc,
          stepped, whole, ← run_append, List.flatten_append, List.flatten_singleton]

theorem prefix_of_parts {β : Type} {allowed : α → List β → Prop} {parts : List (List β)}
    (matched : List.Forall₂ allowed actions parts) {before : List β} {move : β}
    (within : before ++ [move] <+: parts.flatten) :
    ∃ earlier action part own, earlier ++ [action] <+: actions ∧ allowed action part ∧
      own ++ [move] <+: part ∧ before = (parts.take earlier.length).flatten ++ own := by
  induction matched generalizing before with
  | nil => simp at within
  | @cons action part actions parts allows rest ih =>
      rw [List.flatten_cons] at within
      by_cases inside : before.length < part.length
      · refine ⟨[], action, part, before, by simp, allows, ?_, by simp⟩
        exact List.prefix_of_prefix_length_le within (List.prefix_append _ _) (by simp; omega)
      · obtain ⟨middle, rfl⟩ := List.prefix_of_prefix_length_le (List.prefix_append part parts.flatten)
          ((List.prefix_append before [move]).trans within) (Nat.le_of_not_lt inside)
        rw [List.append_assoc, List.prefix_append_right_inj] at within
        obtain ⟨earlier, other, found, own, listed, becomes, inPart, rfl⟩ := ih within
        exact ⟨action :: earlier, other, found, own, by simpa using listed, becomes, inPart,
          by simp⟩

/-- Where a system that has stopped takes no more steps, a run that ends so has a step that stops
it, and ends as that step leaves it. -/
theorem run_stops {running : σ → Prop} (initial : running start)
    (stays : ∀ state action, ¬running state → step state action = state)
    (stopped : ¬running (run step start actions)) :
    ∃ earlier action later, actions = earlier ++ action :: later ∧
      running (run step start earlier) ∧
      run step start actions = step (run step start earlier) action := by
  induction actions using List.reverseRecOn with
  | nil => exact absurd initial stopped
  | append_singleton actions action ih =>
      rw [run_snoc] at stopped ⊢
      by_cases before : running (run step start actions)
      · exact ⟨actions, action, [], rfl, before, rfl⟩
      · obtain ⟨earlier, stopping, later, rfl, still, same⟩ := ih before
        refine ⟨earlier, stopping, later ++ [action], by simp, still, ?_⟩
        rw [stays _ _ before, same]

/-- The last step of the run that is marked is one of those chosen. -/
def LastMarked (step : σ → α → σ) (start : σ) (marked chosen : σ → α → Prop) (actions : List α) :
    Prop :=
  ∃ before action after, actions = before ++ action :: after ∧
    chosen (run step start before) action ∧
    ∀ middle later rest, after = middle ++ later :: rest →
      ¬marked (run step start (before ++ action :: middle)) later

section LastMarked

variable {marked chosen : σ → α → Prop}

theorem lastMarked_nil : ¬LastMarked step start marked chosen [] := by
  rintro ⟨before, action, after, split, _⟩
  simp at split

theorem lastMarked_snoc (action : α) :
    LastMarked step start marked chosen (actions ++ [action]) ↔
      chosen (run step start actions) action ∨
        ¬marked (run step start actions) action ∧ LastMarked step start marked chosen actions := by
  constructor
  · rintro ⟨before, first, after, split, picked, unmarked⟩
    rcases List.eq_nil_or_concat' after with rfl | ⟨middle, last, rfl⟩
    · obtain ⟨rfl, same⟩ := List.append_inj' split rfl
      cases same
      exact .inl picked
    · have reordered : actions ++ [action] = (before ++ first :: middle) ++ [last] := by
        rw [split, List.append_assoc, List.cons_append]
      obtain ⟨rfl, same⟩ := List.append_inj' reordered rfl
      cases same
      refine .inr ⟨unmarked middle action [] rfl, before, first, middle, rfl, picked, ?_⟩
      rintro between later rest rfl
      exact unmarked between later (rest ++ [action]) (by simp)
  · rintro (picked | ⟨unmarked, before, first, after, rfl, picked, others⟩)
    · exact ⟨actions, action, [], rfl, picked, by simp⟩
    · refine ⟨before, first, after ++ [action], by simp, picked, ?_⟩
      intro middle later rest split
      rcases List.eq_nil_or_concat' rest with rfl | ⟨between, last, rfl⟩
      · obtain ⟨rfl, same⟩ := List.append_inj' split rfl
        cases same
        exact unmarked
      · have reordered : after ++ [action] = (middle ++ later :: between) ++ [last] := by
          rw [split, List.append_assoc, List.cons_append]
        exact others middle later between (List.append_inj' reordered rfl).1

end LastMarked

end Runs
