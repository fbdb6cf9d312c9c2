import Mathlib.Algebra.BigOperators.Group.List.Basic
import Mathlib.Algebra.GroupWithZero.Nat
import Mathlib.Data.List.Sort
import Mathlib.Data.List.Dedup
import Mathlib.Order.Lattice

/-!
Tables as lists of rows, and what a query does with them: rows in the order of a
key, and rows grouped by a key.
-/

namespace Table

section Order

variable {ρ κ : Type} [LinearOrder κ]

def orderBy (key : ρ → κ) (rows : List ρ) : List ρ :=
  rows.insertionSort fun left right => key left ≤ key right

theorem orderBy_perm (key : ρ → κ) (rows : List ρ) : (orderBy key rows).Perm rows :=
  List.perm_insertionSort _ rows

@[simp] theorem mem_orderBy {key : ρ → κ} {rows : List ρ} {row : ρ} :
    row ∈ orderBy key rows ↔ row ∈ rows :=
  List.mem_insertionSort _

@[simp] theorem orderBy_eq_nil {key : ρ → κ} {rows : List ρ} :
    orderBy key rows = [] ↔ rows = [] := by
  constructor
  · intro empty
    exact List.nil_perm.mp (empty ▸ orderBy_perm key rows)
  · intro empty
    simp [empty, orderBy]

theorem orderBy_le (key : ρ → κ) (rows : List ρ) :
    (orderBy key rows).Pairwise fun first second => key first ≤ key second :=
  List.pairwise_insertionSort _ rows

theorem orderBy_stable (key : ρ → κ) {before : ρ → ρ → Prop} {rows : List ρ}
    (given : rows.Pairwise before) : (orderBy key rows).Pairwise fun first second =>
      key first = key second → before first second := by
  induction rows with
  | nil => exact .nil
  | cons row rest ih =>
      obtain ⟨first, later⟩ := List.pairwise_cons.mp given
      have ahead : ∀ other ∈ orderBy key rest, before row other :=
        fun other member => first other (mem_orderBy.mp member)
      have stable := ih later
      rw [orderBy, List.insertionSort_cons]
      change (List.orderedInsert _ row (orderBy key rest)).Pairwise _
      generalize orderBy key rest = ordered at ahead stable
      clear ih
      induction ordered with
      | nil => simp
      | cons other others ih =>
          obtain ⟨kept, stable⟩ := List.pairwise_cons.mp stable
          rw [List.orderedInsert_cons]
          split
          · refine List.pairwise_cons.mpr ⟨fun next member _ => ahead next member, ?_⟩
            exact List.pairwise_cons.mpr ⟨kept, stable⟩
          · rename_i below
            have placed :=
              ih (fun next member => ahead next (List.mem_cons_of_mem _ member)) stable
            refine List.pairwise_cons.mpr ⟨fun next member same => ?_, placed⟩
            rcases (List.mem_orderedInsert _).mp member with rfl | held
            · exact absurd same.ge below
            · exact kept next held same

/-- The first rows by a key: in order, as many as asked for or all, and none of the others comes
before one of them. -/
structure Leading (key : ρ → κ) (count : Nat) (rows chosen : List ρ) : Prop where
  ordered : chosen.Pairwise fun first second => key first ≤ key second
  length : chosen.length = min count rows.length
  others : ∃ others, (chosen ++ others).Perm rows ∧
    ∀ row ∈ chosen, ∀ other ∈ others, key row ≤ key other

theorem orderBy_take (key : ρ → κ) (count : Nat) (rows : List ρ) :
    Leading key count rows ((orderBy key rows).take count) := by
  have sorted := orderBy_le key rows
  have whole := List.take_append_drop count (orderBy key rows)
  constructor
  · exact sorted.sublist (List.take_sublist _ _)
  · rw [List.length_take, (orderBy_perm key rows).length_eq]
  · refine ⟨(orderBy key rows).drop count, ?_, ?_⟩
    · rw [whole]
      exact orderBy_perm key rows
    · rw [← whole] at sorted
      exact (List.pairwise_append.mp sorted).2.2

theorem orderBy_lt {key : ρ → κ} {rows : List ρ} (unique : (rows.map key).Nodup) :
    (orderBy key rows).Pairwise fun first second => key first < key second := by
  have sorted := orderBy_le key rows
  have distinct : ((orderBy key rows).map key).Nodup :=
    ((orderBy_perm key rows).map key).nodup_iff.mpr unique
  exact (sorted.and (List.pairwise_map.mp distinct)).imp fun both => lt_of_le_of_ne both.1 both.2

theorem orderBy_eq {key : ρ → κ} {rows sorted : List ρ} (same : sorted.Perm rows)
    (ordered : sorted.Pairwise fun first second => key first < key second) :
    orderBy key rows = sorted := by
  have distinct : (rows.map key).Nodup := by
    refine (same.map key).nodup_iff.mp (List.pairwise_map.mpr ?_)
    exact ordered.imp fun less => ne_of_lt less
  refine List.Perm.eq_of_pairwise ?_ (orderBy_lt distinct) ordered
    ((orderBy_perm key rows).trans same.symm)
  intro first second _ _ less greater
  exact absurd (less.trans greater) (lt_irrefl _)

theorem orderBy_filter {key : ρ → κ} {rows : List ρ} (unique : (rows.map key).Nodup)
    (selected : ρ → Bool) :
    orderBy key (rows.filter selected) = (orderBy key rows).filter selected :=
  orderBy_eq ((orderBy_perm key rows).filter selected) ((orderBy_lt unique).filter selected)

def groupKeys (key : ρ → κ) (rows : List ρ) : List κ := orderBy id (rows.map key).dedup

@[simp] theorem mem_groupKeys {key : ρ → κ} {rows : List ρ} {value : κ} :
    value ∈ groupKeys key rows ↔ ∃ row ∈ rows, key row = value := by
  simp [groupKeys]

theorem groupKeys_sorted (key : ρ → κ) (rows : List ρ) : (groupKeys key rows).SortedLT := by
  rw [List.sortedLT_iff_nodup_and_sortedLE]
  constructor
  · exact (orderBy_perm id _).nodup_iff.mpr (List.nodup_dedup _)
  · exact (List.pairwise_insertionSort _ _).sortedLE

theorem groupKeys_eq {key : ρ → κ} {rows : List ρ} {keys : List κ} (sorted : keys.SortedLT)
    (members : ∀ value, value ∈ keys ↔ ∃ row ∈ rows, key row = value) :
    groupKeys key rows = keys :=
  (groupKeys_sorted key rows).eq_of_mem_iff sorted fun value => by rw [mem_groupKeys, members]

def groupBy (key : ρ → κ) (rows : List ρ) : List (κ × List ρ) :=
  (groupKeys key rows).map fun value => (value, rows.filter fun row => key row == value)

theorem groupBy_keys (key : ρ → κ) (rows : List ρ) :
    (groupBy key rows).map Prod.fst = groupKeys key rows := by
  rw [groupBy, List.map_map]
  exact List.map_id _

theorem groupBy_sorted (key : ρ → κ) (rows : List ρ) :
    (groupBy key rows).Pairwise fun first second => first.1 < second.1 := by
  have sorted := (groupKeys_sorted key rows).pairwise
  rw [← groupBy_keys] at sorted
  exact List.pairwise_map.mp sorted

theorem mem_group {key : ρ → κ} {rows group : List ρ} {value : κ}
    (member : (value, group) ∈ groupBy key rows) (row : ρ) :
    row ∈ group ↔ row ∈ rows ∧ key row = value := by
  obtain ⟨other, _, same⟩ := List.mem_map.mp member
  obtain ⟨rfl, rfl⟩ := Prod.mk.inj same
  rw [List.mem_filter, beq_iff_eq]

theorem mem_groupBy {key : ρ → κ} {rows group : List ρ} {value : κ}
    (member : (value, group) ∈ groupBy key rows) :
    group ⊆ rows ∧ (∃ row ∈ group, key row = value) ∧ ∀ row ∈ group, key row = value := by
  obtain ⟨other, found, same⟩ := List.mem_map.mp member
  simp only [Prod.mk.injEq] at same
  obtain ⟨rfl, rfl⟩ := same
  obtain ⟨row, belongs, equal⟩ := mem_groupKeys.mp found
  refine ⟨fun _ kept => (List.mem_filter.mp kept).1, ?_, ?_⟩
  · exact ⟨row, List.mem_filter.mpr ⟨belongs, by simpa using equal⟩, equal⟩
  · exact fun _ kept => by simpa using (List.mem_filter.mp kept).2

theorem groupBy_rows {key : ρ → κ} {rows group : List ρ} {value : κ}
    (member : (value, group) ∈ groupBy key rows) {selected : ρ → Bool}
    (same : ∀ row, selected row = true ↔ key row = value) : group = rows.filter selected := by
  obtain ⟨other, _, pair⟩ := List.mem_map.mp member
  simp only [Prod.mk.injEq] at pair
  obtain ⟨rfl, rfl⟩ := pair
  refine List.filter_congr fun row _ => ?_
  rw [Bool.eq_iff_iff, beq_iff_eq, same]

theorem groupBy_sublist {key : ρ → κ} {rows group : List ρ} {value : κ}
    (member : (value, group) ∈ groupBy key rows) : group.Sublist rows := by
  obtain ⟨other, _, same⟩ := List.mem_map.mp member
  exact (Prod.mk.inj same).2 ▸ List.filter_sublist

theorem groupBy_perm {key : ρ → κ} {rows others : List ρ} (same : rows.Perm others) :
    List.Forall₂ (fun first second => first.1 = second.1 ∧ first.2.Perm second.2 ∧ first.2 ⊆ rows)
      (groupBy key rows) (groupBy key others) := by
  have keys : groupKeys key rows = groupKeys key others :=
    groupKeys_eq (groupKeys_sorted key others) fun value => by simp [same.mem_iff]
  unfold groupBy
  rw [keys, List.forall₂_map_left_iff, List.forall₂_map_right_iff, List.forall₂_same]
  exact fun value _ => ⟨rfl, same.filter _, fun _ member => (List.mem_filter.mp member).1⟩

theorem groupBy_filter (key : ρ → κ) (selected : κ → Bool) (rows : List ρ) :
    (groupBy key rows).filter (fun group => selected group.1) =
      groupBy key (rows.filter fun row => selected (key row)) := by
  have keys : groupKeys key (rows.filter fun row => selected (key row)) =
      (groupKeys key rows).filter selected := by
    apply groupKeys_eq
    · exact ((groupKeys_sorted key rows).pairwise.filter _).sortedLT
    · intro value
      simp only [List.mem_filter, mem_groupKeys]
      constructor
      · rintro ⟨⟨row, member, rfl⟩, kept⟩
        exact ⟨row, ⟨member, kept⟩, rfl⟩
      · rintro ⟨row, ⟨member, kept⟩, rfl⟩
        exact ⟨⟨row, member, rfl⟩, kept⟩
  unfold groupBy
  rw [keys, List.filter_map]
  apply List.map_congr_left
  intro value member
  obtain ⟨_, kept⟩ := List.mem_filter.mp member
  rw [List.filter_filter]
  congr 1
  apply List.filter_congr
  intro row _
  by_cases same : key row = value
  · simp [same, show selected value = true from kept]
  · simp [same]

theorem filter_append_filter {key : ρ → κ} {rows : List ρ}
    (ordered : rows.Pairwise fun first second => key first < key second) (bound : κ) :
    rows.filter (fun row => decide (key row ≤ bound)) ++
      rows.filter (fun row => decide (bound < key row)) = rows := by
  induction rows with
  | nil => rfl
  | cons row rest ih =>
      obtain ⟨first, later⟩ := List.pairwise_cons.mp ordered
      by_cases below : key row ≤ bound
      · simp only [List.filter_cons, below, not_lt.mpr below, decide_true, decide_false, ↓reduceIte,
          Bool.false_eq_true, List.cons_append, ih later]
      · have above : ∀ other ∈ row :: rest, bound < key other := by
          intro other member
          rcases List.mem_cons.mp member with rfl | held
          · exact not_le.mp below
          · exact (not_le.mp below).trans (first other held)
        have nothing : (row :: rest).filter (fun other => decide (key other ≤ bound)) = [] :=
          List.filter_eq_nil_iff.mpr fun other member => by simpa using above other member
        have all : (row :: rest).filter (fun other => decide (bound < key other)) = row :: rest :=
          List.filter_eq_self.mpr fun other member => by simpa using above other member
        rw [nothing, all, List.nil_append]

theorem groupBy_append (key : ρ → κ) (bound : κ) (rows : List ρ) :
    groupBy key (rows.filter fun row => decide (key row ≤ bound)) ++
      groupBy key (rows.filter fun row => decide (bound < key row)) = groupBy key rows := by
  rw [← groupBy_filter key (fun value => decide (value ≤ bound)),
    ← groupBy_filter key fun value => decide (bound < value)]
  exact filter_append_filter (groupBy_sorted key rows) bound

section Sums

variable {μ : Type} [AddCommMonoid μ] (weight : ρ → μ)

theorem sum_filter_add {first second : ρ → Bool}
    (disjoint : ∀ row, first row = true → second row = false) (rows : List ρ) :
    ((rows.filter first).map weight).sum + ((rows.filter second).map weight).sum =
      ((rows.filter fun row => first row || second row).map weight).sum := by
  induction rows with
  | nil => simp
  | cons row rest ih =>
      cases isFirst : first row with
      | true =>
          have notSecond := disjoint row isFirst
          simp only [List.filter_cons, isFirst, notSecond, Bool.or_false, ↓reduceIte,
            Bool.false_eq_true, List.map_cons, List.sum_cons]
          rw [add_assoc, ih]
      | false =>
          cases isSecond : second row with
          | true =>
              simp only [List.filter_cons, isFirst, isSecond, Bool.or_true, ↓reduceIte,
                Bool.false_eq_true, List.map_cons, List.sum_cons]
              rw [add_left_comm, ih]
          | false =>
              simpa [List.filter_cons, isFirst, isSecond] using ih

theorem sum_groups {key : ρ → κ} {keys : List κ} (distinct : keys.Nodup) {rows : List ρ}
    (all : ∀ row ∈ rows, key row ∈ keys) :
    (keys.map fun value => ((rows.filter fun row => key row == value).map weight).sum).sum =
      (rows.map weight).sum := by
  have grouped : (keys.map fun value =>
      ((rows.filter fun row => key row == value).map weight).sum).sum =
        ((rows.filter fun row => keys.contains (key row)).map weight).sum := by
    clear all
    induction keys with
    | nil => simp
    | cons value rest ih =>
        obtain ⟨absent, distinct⟩ := List.nodup_cons.mp distinct
        rw [List.map_cons, List.sum_cons, ih distinct, sum_filter_add]
        · simp only [List.contains_cons]
        · intro row same
          simp only [beq_iff_eq] at same
          simpa [same] using absent
  have everything : rows.filter (fun row => keys.contains (key row)) = rows :=
    List.filter_eq_self.mpr fun row member => by simpa using all row member
  rw [grouped, everything]

theorem groupBy_sum (key : ρ → κ) (rows : List ρ) :
    ((groupBy key rows).map fun group => (group.2.map weight).sum).sum = (rows.map weight).sum := by
  rw [← sum_groups weight (groupKeys_sorted key rows).nodup
    fun row member => mem_groupKeys.mpr ⟨row, member, rfl⟩, groupBy, List.map_map]
  rfl

theorem groupBy_sum_at (key : ρ → κ) (rows : List ρ) (value : κ) :
    (((groupBy key rows).filter fun group => group.1 == value).map
      fun group => (group.2.map weight).sum).sum =
        ((rows.filter fun row => key row == value).map weight).sum := by
  rw [groupBy_filter key fun other => other == value, groupBy_sum]

end Sums

end Order

section Keys

variable {ρ κ : Type}

theorem filter_swap (first second : ρ → Bool) (rows : List ρ) :
    (rows.filter first).filter second = (rows.filter second).filter first := by
  rw [List.filter_filter, List.filter_filter]
  exact List.filter_congr fun row _ => Bool.and_comm _ _

theorem nodup_append_row {key : ρ → κ} {rows : List ρ} {row : ρ} (unique : (rows.map key).Nodup)
    (fresh : key row ∉ rows.map key) : ((rows ++ [row]).map key).Nodup := by
  rw [List.map_append, List.nodup_append]
  refine ⟨unique, by simp, ?_⟩
  intro value member other single same
  simp only [List.map_cons, List.map_nil, List.mem_singleton] at single
  exact fresh (single ▸ same ▸ member)

theorem filter_flatMap {parents : List ρ} {children : ρ → List κ} {selected : κ → Bool}
    {kept : ρ → Bool} (inherited : ∀ parent ∈ parents, ∀ child ∈ children parent,
      selected child = kept parent) :
    (parents.flatMap children).filter selected = (parents.filter kept).flatMap children := by
  induction parents with
  | nil => rfl
  | cons parent rest ih =>
      have later := ih fun other member => inherited other (List.mem_cons_of_mem _ member)
      have first := inherited parent List.mem_cons_self
      rw [List.flatMap_cons, List.filter_append, later, List.filter_cons]
      cases same : kept parent with
      | true =>
          have all : (children parent).filter selected = children parent :=
            List.filter_eq_self.mpr fun child member => (first child member).trans same
          simp [all]
      | false =>
          have nothing : (children parent).filter selected = [] :=
            List.filter_eq_nil_iff.mpr fun child member => by simp [first child member, same]
          simp [nothing]

theorem filter_key [DecidableEq κ] {key : ρ → κ} {rows : List ρ} {row : ρ}
    (unique : (rows.map key).Nodup) (member : row ∈ rows) :
    rows.filter (fun other => key other == key row) = [row] := by
  induction rows with
  | nil => simp at member
  | cons first rest ih =>
      simp only [List.map_cons, List.nodup_cons] at unique
      rcases List.mem_cons.mp member with same | later
      · subst same
        have gone : rest.filter (fun other => key other == key row) = [] := by
          rw [List.filter_eq_nil_iff]
          intro other belongs
          have different : key other ≠ key row := fun equal =>
            unique.1 (equal ▸ List.mem_map_of_mem belongs)
          simpa using different
        simp [gone]
      · have different : key first ≠ key row := fun equal =>
          unique.1 (equal ▸ List.mem_map_of_mem later)
        simp [different, ih unique.2 later]

theorem perm_cons_filter_ne [DecidableEq κ] {key : ρ → κ} {rows : List ρ} {row : ρ}
    (unique : (rows.map key).Nodup) (member : row ∈ rows) :
    rows.Perm (row :: rows.filter fun other => key other != key row) := by
  induction rows with
  | nil => simp at member
  | cons first rest ih =>
      simp only [List.map_cons, List.nodup_cons] at unique
      rcases List.mem_cons.mp member with same | later
      · subst same
        have kept : rest.filter (fun other => key other != key row) = rest := by
          rw [List.filter_eq_self]
          intro other belongs
          have different : key other ≠ key row := fun equal =>
            unique.1 (equal ▸ List.mem_map_of_mem belongs)
          simpa using different
        simp [kept]
      · have different : key first ≠ key row := fun equal =>
          unique.1 (equal ▸ List.mem_map_of_mem later)
        have tail := (ih unique.2 later).cons first
        simpa [different] using tail.trans (List.Perm.swap row first _)

theorem filter_length_le_one {rows : List ρ} {selected : ρ → Bool} (distinct : rows.Nodup)
    (single : ∀ first ∈ rows, ∀ second ∈ rows, selected first = true → selected second = true →
      first = second) : (rows.filter selected).length ≤ 1 := by
  have kept := distinct.filter selected
  cases found : rows.filter selected with
  | nil => simp
  | cons first rest =>
      cases rest with
      | nil => simp
      | cons second rest =>
          rw [found] at kept
          have firstKept := List.mem_filter.mp (found ▸ List.mem_cons_self : first ∈ rows.filter selected)
          have secondKept := List.mem_filter.mp
            (found ▸ List.mem_cons_of_mem _ List.mem_cons_self : second ∈ rows.filter selected)
          have same := single first firstKept.1 second secondKept.1 firstKept.2 secondKept.2
          simp [same] at kept

end Keys

end Table
