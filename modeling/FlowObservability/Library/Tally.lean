import Mathlib.Data.Prod.Lex
import Mathlib.Tactic.Linarith
import FlowObservability.Library.Table

/-!
Tallies: an ordered map that keeps one counter for each key of the items it was given. It is a
GROUP BY computed item by item, and cutting it at a bound cuts the items.
-/

namespace Tally

open Table

variable {ι κ ν : Type} [LinearOrder κ] {key : ι → κ} {zero : ν} {add : ν → ι → ν}

/-- `entry(key).or_default()` and an update of the counter there. -/
def record (key : ι → κ) (zero : ν) (add : ν → ι → ν) (counters : Std.TreeMap κ ν) (item : ι) :
    Std.TreeMap κ ν :=
  counters.alter (key item) fun counter => some (add (counter.getD zero) item)

def counterOf (zero : ν) (add : ν → ι → ν) : List ι → Option ν
  | [] => none
  | item :: rest => some ((item :: rest).foldl add zero)

def Tallies (key : ι → κ) (zero : ν) (add : ν → ι → ν) (counters : Std.TreeMap κ ν)
    (items : List ι) : Prop :=
  ∀ value, counters[value]? = counterOf zero add (items.filter fun item => key item == value)

theorem counterOf_snoc (items : List ι) (item : ι) :
    counterOf zero add (items ++ [item]) =
      some (add ((counterOf zero add items).getD zero) item) := by
  cases items with
  | nil => rfl
  | cons first rest => simp [counterOf]

theorem counterOf_eq_some {items : List ι} {counter : ν}
    (found : counterOf zero add items = some counter) :
    items ≠ [] ∧ counter = items.foldl add zero := by
  cases items with
  | nil => simp [counterOf] at found
  | cons item rest => exact ⟨by simp, (Option.some.inj found).symm⟩

theorem tallies_empty : Tallies key zero add ∅ [] := by
  intro value
  simp [counterOf]

variable {counters : Std.TreeMap κ ν} {items : List ι}

theorem Tallies.record (tallies : Tallies key zero add counters items) (item : ι) :
    Tallies key zero add (record key zero add counters item) (items ++ [item]) := by
  intro value
  rw [Tally.record, Std.TreeMap.getElem?_alter, List.filter_append]
  by_cases same : key item = value
  · subst same
    rw [tallies (key item)]
    simp [counterOf_snoc]
  · have different : compare (key item) value ≠ .eq := fun equal =>
      same (compare_eq_iff_eq.mp equal)
    rw [if_neg different, tallies value]
    simp [same]

theorem Tallies.filter (tallies : Tallies key zero add counters items) (kept : κ → Bool) :
    Tallies key zero add (counters.filter fun value _ => kept value)
      (items.filter fun item => kept (key item)) := by
  intro value
  rw [Std.TreeMap.getElem?_filter', tallies value, List.filter_filter]
  have narrowed : items.filter (fun item => key item == value && kept (key item)) =
      if kept value then items.filter (fun item => key item == value) else [] := by
    split
    · rename_i keeps
      apply List.filter_congr
      intro item _
      by_cases same : key item = value
      · simp [same, keeps]
      · simp [same]
    · rename_i drops
      rw [List.filter_eq_nil_iff]
      intro item _ both
      simp only [Bool.and_eq_true, beq_iff_eq] at both
      exact drops (both.1 ▸ both.2)
  rw [narrowed]
  cases counter : counterOf zero add (items.filter fun item => key item == value) with
  | none =>
      by_cases keeps : kept value = true
      · simp [keeps, counter]
      · simp [keeps, counterOf]
  | some total =>
      by_cases keeps : kept value = true
      · simp [keeps, counter]
      · simp [keeps, counterOf]

theorem Tallies.toList_eq (tallies : Tallies key zero add counters items) :
    counters.toList =
      (groupBy key items).map fun group => (group.1, group.2.foldl add zero) := by
  have counted : ∀ entry ∈ counters.toList,
      entry = (entry.1, (items.filter fun item => key item == entry.1).foldl add zero) := by
    rintro ⟨value, counter⟩ member
    rw [Std.TreeMap.mem_toList_iff_getElem?_eq_some, tallies value] at member
    rw [← (counterOf_eq_some member).2]
  have keys : groupKeys key items = counters.keys := by
    apply groupKeys_eq
    · have ordered := Std.TreeMap.ordered_keys (t := counters)
      exact (ordered.imp fun less => compare_lt_iff_lt.mp less).sortedLT
    · intro value
      rw [Std.TreeMap.mem_keys, ← Std.TreeMap.isSome_getElem?_iff_mem, tallies value]
      constructor
      · intro present
        obtain ⟨counter, found⟩ := Option.isSome_iff_exists.mp present
        obtain ⟨item, member⟩ := List.exists_mem_of_ne_nil _ (counterOf_eq_some found).1
        rw [List.mem_filter] at member
        exact ⟨item, member.1, by simpa using member.2⟩
      · rintro ⟨item, member, same⟩
        cases found : items.filter fun item => key item == value with
        | nil =>
            have absent := List.filter_eq_nil_iff.mp found item member
            simp [same] at absent
        | cons first rest => rfl
  calc counters.toList
      = counters.toList.map fun entry =>
          (entry.1, (items.filter fun item => key item == entry.1).foldl add zero) := by
        conv_lhs => rw [← List.map_id counters.toList]
        exact List.map_congr_left counted
    _ = counters.keys.map fun value =>
          (value, (items.filter fun item => key item == value).foldl add zero) := by
        rw [← Std.TreeMap.map_fst_toList_eq_keys, List.map_map]
        rfl
    _ = (groupBy key items).map fun group => (group.1, group.2.foldl add zero) := by
        rw [← keys, groupBy, List.map_map]
        rfl

end Tally
