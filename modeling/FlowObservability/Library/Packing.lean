import Mathlib.Algebra.Order.BigOperators.Group.List
import Mathlib.Algebra.Order.Ring.Nat
import Mathlib.Data.List.Dedup

/-!
Items laid out on pages of one capacity. No layout takes more pages than there are items, and one
takes exactly as many where no two of the items fit on a page together.
-/

/-- A page for each of the items, none filled beyond the capacity. -/
structure Packing {α : Type} (size : α → Nat) (capacity : Nat) (items : List α) where
  page : α → Nat
  fits : ∀ number, ((items.filter fun item => page item = number).map size).sum ≤ capacity

namespace Packing

variable {α : Type} {size : α → Nat} {capacity : Nat} {items : List α}

def used (packing : Packing size capacity items) : Nat := (items.map packing.page).dedup.length

variable [DecidableEq α]

theorem filter_idxOf (distinct : items.Nodup) (number : Nat) :
    (items.filter fun item => items.idxOf item = number).length ≤ 1 := by
  have once : (items.filter fun item => items.idxOf item = number).Nodup := distinct.filter _
  have same : ∀ first ∈ items.filter fun item => items.idxOf item = number,
      ∀ second ∈ items.filter fun item => items.idxOf item = number, first = second := by
    intro first firstMember second secondMember
    simp only [List.mem_filter, decide_eq_true_eq] at firstMember secondMember
    exact (List.idxOf_inj firstMember.1).mp (firstMember.2.trans secondMember.2.symm)
  generalize items.filter (fun item => items.idxOf item = number) = kept at once same
  match kept with
  | [] => simp
  | [_] => simp
  | first :: second :: rest =>
      have equal := same first (by simp) second (by simp)
      simp [equal] at once

def apart (distinct : items.Nodup) (fits : ∀ item ∈ items, size item ≤ capacity) :
    Packing size capacity items where
  page item := items.idxOf item
  fits number := by
    have few := filter_idxOf distinct number
    have member : ∀ item ∈ items.filter fun item => items.idxOf item = number, item ∈ items :=
      fun item kept => List.mem_of_mem_filter kept
    generalize items.filter (fun item => items.idxOf item = number) = kept at few member
    match kept with
    | [] => simp
    | [item] => simpa using fits item (member item (by simp))
    | _ :: _ :: _ => simp at few

end Packing
