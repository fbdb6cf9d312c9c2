import Mathlib.Data.UInt
import Mathlib.Order.Lattice
import Mathlib.Algebra.BigOperators.Group.List.Basic

/-!
Machine words: their order, subtraction that stops at zero, and products and counters that wrap
around.
-/

namespace Words

instance instLinearOrderUInt64 : LinearOrder UInt64 where
  le_refl := UInt64.le_refl
  le_trans _ _ _ := UInt64.le_trans
  le_antisymm _ _ := UInt64.le_antisymm
  le_total := UInt64.le_total
  toDecidableLE := inferInstance
  lt_iff_le_not_ge first second := by
    rw [UInt64.lt_iff_toNat_lt, UInt64.le_iff_toNat_le, UInt64.le_iff_toNat_le]
    omega

def saturatingSub (first second : UInt64) : UInt64 :=
  if second ≤ first then first - second else 0

theorem mul_mul_exact_iff (value first second : UInt64) :
    (value * first * second).toNat = value.toNat * (first.toNat * second.toNat) ↔
      value.toNat * (first.toNat * second.toNat) < 2 ^ 64 := by
  rw [UInt64.toNat_mul, UInt64.toNat_mul, Nat.mod_mul_mod, Nat.mul_assoc]
  exact Nat.mod_eq_iff_lt (by decide)

section Counters

variable {ι : Type} {weight : ι → UInt64}

theorem foldl_add_toNat {items : List ι} {start : UInt64}
    (fits : start.toNat + (items.map fun item => (weight item).toNat).sum < 2 ^ 64) :
    (items.foldl (fun total item => total + weight item) start).toNat =
      start.toNat + (items.map fun item => (weight item).toNat).sum := by
  induction items generalizing start with
  | nil => simp
  | cons item rest ih =>
      simp only [List.map_cons, List.sum_cons] at fits
      have next : (start + weight item).toNat = start.toNat + (weight item).toNat := by
        rw [UInt64.toNat_add, Nat.mod_eq_of_lt (by omega)]
      rw [List.foldl_cons, ih (by omega), next, List.map_cons, List.sum_cons, Nat.add_assoc]

variable (weight) in
theorem foldl_add_le (items : List ι) (start : UInt64) :
    (items.foldl (fun total item => total + weight item) start).toNat ≤
      start.toNat + (items.map fun item => (weight item).toNat).sum := by
  induction items generalizing start with
  | nil => simp
  | cons item rest ih =>
      have next : (start + weight item).toNat ≤ start.toNat + (weight item).toNat := by
        rw [UInt64.toNat_add]
        exact Nat.mod_le _ _
      rw [List.foldl_cons, List.map_cons, List.sum_cons]
      have later := ih (start + weight item)
      omega

end Counters

end Words
