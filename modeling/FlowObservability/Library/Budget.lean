import Mathlib.Algebra.BigOperators.Group.List.Basic
import Mathlib.Algebra.Order.BigOperators.Group.List
import Mathlib.Algebra.Order.Ring.Int

/-!
The longest suffix of a list whose weights stay within a budget.
-/

namespace Budget

variable {α : Type} {weight : α → Int} {budget : Int}

def withinBudget (weight : α → Int) (budget : Int) : List α → List α
  | [] => []
  | item :: rest =>
    if ((item :: rest).map weight).sum ≤ budget then item :: rest
    else withinBudget weight budget rest

theorem withinBudget_of_le {items : List α} (fits : (items.map weight).sum ≤ budget) :
    withinBudget weight budget items = items := by
  cases items with
  | nil => rfl
  | cons item rest => exact if_pos fits

theorem withinBudget_of_gt {item : α} {rest : List α}
    (exceeds : budget < ((item :: rest).map weight).sum) :
    withinBudget weight budget (item :: rest) = withinBudget weight budget rest :=
  if_neg (by omega)

theorem withinBudget_suffix (items : List α) : withinBudget weight budget items <:+ items := by
  induction items with
  | nil => exact List.suffix_refl _
  | cons item rest ih =>
      by_cases fits : ((item :: rest).map weight).sum ≤ budget
      · have all : withinBudget weight budget (item :: rest) = item :: rest :=
          withinBudget_of_le fits
        exact ⟨[], all⟩
      · rw [withinBudget_of_gt (by omega)]
        exact ih.trans (List.suffix_cons item rest)

theorem withinBudget_longest {items suffix : List α} (isSuffix : suffix <:+ items)
    (fits : (suffix.map weight).sum ≤ budget) : suffix <:+ withinBudget weight budget items := by
  induction items with
  | nil => exact isSuffix
  | cons item rest ih =>
      by_cases whole : ((item :: rest).map weight).sum ≤ budget
      · rw [withinBudget_of_le whole]
        exact isSuffix
      · rw [withinBudget_of_gt (by omega)]
        rcases List.suffix_cons_iff.mp isSuffix with same | shorter
        · subst same
          exact absurd fits whole
        · exact ih shorter

theorem mem_withinBudget_iff {κ : Type} [LinearOrder κ] {key : α → κ} {items : List α}
    (increasing : items.Pairwise fun first second => key first < key second)
    (nonneg : ∀ item ∈ items, 0 ≤ weight item) {item : α} (member : item ∈ items) :
    item ∈ withinBudget weight budget items ↔
      ((items.filter fun other => decide (key item ≤ key other)).map weight).sum ≤ budget := by
  induction items with
  | nil => simp at member
  | cons head rest ih =>
      obtain ⟨above, increasing⟩ := List.pairwise_cons.mp increasing
      obtain ⟨headNonneg, restNonneg⟩ := List.forall_mem_cons.mp nonneg
      by_cases whole : ((head :: rest).map weight).sum ≤ budget
      · rw [withinBudget_of_le whole]
        have part : (((head :: rest).filter fun other =>
            decide (key item ≤ key other)).map weight).sum ≤ ((head :: rest).map weight).sum := by
          apply List.Sublist.sum_le_sum (List.filter_sublist.map _)
          intro value listed
          obtain ⟨other, belongs, rfl⟩ := List.mem_map.mp listed
          exact nonneg other belongs
        exact ⟨fun _ => part.trans whole, fun _ => member⟩
      · rw [withinBudget_of_gt (by omega)]
        rcases List.mem_cons.mp member with same | later
        · subst same
          have all : ((item :: rest).filter fun other => decide (key item ≤ key other)) =
              item :: rest := by
            rw [List.filter_eq_self]
            intro other belongs
            rcases List.mem_cons.mp belongs with rfl | behind
            · simp
            · simpa using (above other behind).le
          rw [all]
          constructor
          · intro inside
            exact absurd (above item ((withinBudget_suffix rest).subset inside)) (lt_irrefl _)
          · intro fits
            exact absurd fits whole
        · have below : ¬key item ≤ key head := not_le.mpr (above item later)
          rw [List.filter_cons, if_neg (by simpa using below)]
          exact ih increasing restNonneg later

end Budget
