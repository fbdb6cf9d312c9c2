import Mathlib.Algebra.GroupWithZero.Nat
import Mathlib.Data.List.Nodup
import FlowObservability.Library.Json

/-!
Readers that take the fields of an object by their names, in whatever order they stand, and
the documents whose texts a reader of limited depth and number range takes.
-/

namespace Json

variable {α : Type}

/-- The named fields of a document: an object has each of them once at most, next to others
that are skipped, and an array has them all in their order. -/
def fieldsOf (names : List String) : Json → Option (List (String × Json))
  | object fields =>
    let known := fields.filter fun field => names.contains field.1
    if (known.map (·.1)).Nodup then some known else none
  | array items => if items.length = names.length then some (names.zip items) else none
  | _ => none

def struct (names : List String) (read : List (String × Json) → Option α) (document : Json) :
    Option α :=
  (fieldsOf names document).bind read

def required (name : String) (read : Json → Option α) (fields : List (String × Json)) : Option α :=
  (fields.lookup name).bind read

def nullable (read : Json → Option α) : Json → Option (Option α)
  | null => some none
  | document => (read document).map some

def optional (name : String) (read : Json → Option α) (fields : List (String × Json)) :
    Option (Option α) :=
  match fields.lookup name with
  | none => some none
  | some document => nullable read document

def readText : Json → Option String
  | string value => some value
  | _ => none

def readBelow (bound : Nat) : Json → Option Nat
  | number value => if value < bound then some value else none
  | _ => none

def readArray (read : Json → Option α) : Json → Option (List α)
  | array items => items.mapM read
  | _ => none

def readUnit : Json → Option Unit
  | null => some ()
  | _ => none

/-- A variant without content: its name, or an object with null under its name. -/
def readVariant (variants : List (String × α)) : Json → Option α
  | string name => variants.lookup name
  | object [(name, null)] => variants.lookup name
  | _ => none

def IgnoresOrder (read : Json → Option α) : Prop :=
  ∀ document, read document.sortFields = read document

def SameFields (sorted fields : List (String × Json)) : Prop :=
  ∀ name, sorted.lookup name = (fields.lookup name).map sortFields

section Order

variable {name : String} {names : List String} {read : Json → Option α}
  {sorted fields : List (String × Json)}

theorem sortItems_eq (items : List Json) : sortItems items = items.map sortFields := by
  induction items with
  | nil => rfl
  | cons item rest ih => rw [sortItems, ih, List.map_cons]

theorem insertField_perm (field : String × Json) (fields : List (String × Json)) :
    (insertField field fields).Perm (field :: fields) := by
  induction fields with
  | nil => exact List.Perm.refl _
  | cons first rest ih =>
      rw [insertField]
      split
      · exact List.Perm.refl _
      · exact (ih.cons first).trans (List.Perm.swap _ _ _)

def sortValue (field : String × Json) : String × Json := (field.1, field.2.sortFields)

theorem sortEntries_perm (fields : List (String × Json)) :
    (sortEntries fields).Perm (fields.map sortValue) := by
  induction fields with
  | nil => exact List.Perm.refl _
  | cons field rest ih =>
      obtain ⟨name, value⟩ := field
      exact (insertField_perm _ _).trans (ih.cons _)

theorem lookup_sortValue (fields : List (String × Json)) (name : String) :
    (fields.map sortValue).lookup name = (fields.lookup name).map sortFields := by
  induction fields with
  | nil => rfl
  | cons field rest ih =>
      obtain ⟨key, value⟩ := field
      rw [List.map_cons, sortValue, List.lookup_cons, List.lookup_cons, ih]
      cases name == key <;> rfl

theorem lookup_eq_some {value : Json} (distinct : (fields.map (·.1)).Nodup) :
    fields.lookup name = some value ↔ (name, value) ∈ fields := by
  induction fields with
  | nil => simp
  | cons field rest ih =>
      obtain ⟨key, held⟩ := field
      obtain ⟨absent, distinct⟩ := List.nodup_cons.mp distinct
      by_cases same : name = key
      · subst same
        have gone : (name, value) ∉ rest := fun member =>
          absent (List.mem_map.mpr ⟨(name, value), member, rfl⟩)
        simp [gone, eq_comm]
      · have different : (name == key) = false := by simpa using same
        rw [List.lookup_cons, different, List.mem_cons, ih distinct]
        simp [same]

theorem lookup_perm (distinct : (fields.map (·.1)).Nodup) (same : sorted.Perm fields) :
    sorted.lookup name = fields.lookup name := by
  have sortedDistinct := (same.map (·.1)).nodup_iff.mpr distinct
  apply Option.ext
  intro value
  rw [lookup_eq_some sortedDistinct, lookup_eq_some distinct, same.mem_iff]

theorem fieldsOf_sortFields (names : List String) (document : Json) :
    (fieldsOf names document.sortFields = none ∧ fieldsOf names document = none) ∨
      ∃ sorted fields, fieldsOf names document.sortFields = some sorted ∧
        fieldsOf names document = some fields ∧ SameFields sorted fields := by
  cases document with
  | null => exact .inl ⟨rfl, rfl⟩
  | number value => exact .inl ⟨rfl, rfl⟩
  | string value => exact .inl ⟨rfl, rfl⟩
  | array items =>
      rw [sortFields, sortItems_eq]
      by_cases fits : items.length = names.length
      · refine .inr ⟨names.zip (items.map sortFields), names.zip items, ?_, ?_, ?_⟩
        · rw [fieldsOf, List.length_map, if_pos fits]
        · rw [fieldsOf, if_pos fits]
        · intro name
          rw [← lookup_sortValue, List.zip_map_right]
          rfl
      · refine .inl ⟨?_, ?_⟩
        · rw [fieldsOf, List.length_map, if_neg fits]
        · rw [fieldsOf, if_neg fits]
  | object fields =>
      have known := (sortEntries_perm fields).filter fun field => names.contains field.1
      rw [List.filter_map] at known
      have keys := known.map (·.1)
      rw [List.map_map] at keys
      by_cases distinct : ((fields.filter fun field => names.contains field.1).map (·.1)).Nodup
      · have sortedDistinct := keys.nodup_iff.mpr distinct
        refine .inr ⟨_, _, if_pos sortedDistinct, if_pos distinct, ?_⟩
        intro name
        rw [← lookup_sortValue]
        exact lookup_perm (by rw [List.map_map]; exact distinct) known
      · exact .inl ⟨if_neg (mt keys.nodup_iff.mp distinct), if_neg distinct⟩

theorem struct_ignoresOrder {build : List (String × Json) → Option α}
    (same : ∀ sorted fields, SameFields sorted fields → build sorted = build fields) :
    IgnoresOrder (struct names build) := by
  intro document
  rcases fieldsOf_sortFields names document with ⟨noSorted, nothing⟩ |
    ⟨sorted, fields, isSorted, found, matching⟩
  · rw [struct, struct, noSorted, nothing]
  · rw [struct, struct, isSorted, found, Option.bind_some, Option.bind_some,
      same sorted fields matching]

theorem struct_object {build : List (String × Json) → Option α} (all : fields.map (·.1) = names)
    (distinct : names.Nodup) : struct names build (object fields) = build fields := by
  have known : fields.filter (fun field => names.contains field.1) = fields := by
    rw [List.filter_eq_self]
    intro field member
    rw [← all]
    simpa using List.mem_map_of_mem (f := Prod.fst) member
  rw [struct, fieldsOf, known, if_pos (all ▸ distinct), Option.bind_some]

theorem SameFields.required (same : SameFields sorted fields) (ignores : IgnoresOrder read) :
    Json.required name read sorted = Json.required name read fields := by
  rw [Json.required, Json.required, same, Option.bind_map]
  exact congrArg _ (funext ignores)

theorem nullable_ignoresOrder (ignores : IgnoresOrder read) : IgnoresOrder (nullable read) := by
  intro document
  have inner := ignores document
  cases document with
  | null => rfl
  | number value => rfl
  | string value => rfl
  | array items => exact congrArg (Option.map some) inner
  | object fields => exact congrArg (Option.map some) inner

theorem SameFields.optional (same : SameFields sorted fields) (ignores : IgnoresOrder read) :
    Json.optional name read sorted = Json.optional name read fields := by
  rw [Json.optional, Json.optional, same]
  cases fields.lookup name with
  | none => rfl
  | some document => exact nullable_ignoresOrder ignores document

theorem readText_ignoresOrder : IgnoresOrder readText := by
  intro document
  cases document <;> rfl

theorem readBelow_ignoresOrder (bound : Nat) : IgnoresOrder (readBelow bound) := by
  intro document
  cases document <;> rfl

theorem readUnit_ignoresOrder : IgnoresOrder readUnit := by
  intro document
  cases document <;> rfl

theorem readArray_ignoresOrder (ignores : IgnoresOrder read) : IgnoresOrder (readArray read) := by
  intro document
  cases document with
  | null => rfl
  | number value => rfl
  | string value => rfl
  | object fields => rfl
  | array items =>
      rw [sortFields, sortItems_eq, readArray, readArray]
      induction items with
      | nil => rfl
      | cons item rest ih => rw [List.map_cons, List.mapM_cons, List.mapM_cons, ignores, ih]

theorem readVariant_mem {variants : List (String × α)} {document : Json} {variant : α}
    (found : readVariant variants document = some variant) : ∃ name, (name, variant) ∈ variants := by
  have member : ∀ name, variants.lookup name = some variant → (name, variant) ∈ variants := by
    intro name looked
    obtain ⟨before, after, rfl, _⟩ := List.lookup_eq_some_iff.mp looked
    simp
  unfold readVariant at found
  split at found
  · exact ⟨_, member _ found⟩
  · exact ⟨_, member _ found⟩
  · cases found

theorem readVariant_many {variants : List (String × α)} {first second : String × Json}
    {rest : List (String × Json)} :
    readVariant variants (object (first :: second :: rest)) = none := by
  obtain ⟨name, value⟩ := first
  cases value <;> rfl

theorem readVariant_ignoresOrder (variants : List (String × α)) :
    IgnoresOrder (readVariant variants) := by
  intro document
  cases document with
  | null => rfl
  | number value => rfl
  | string value => rfl
  | array items => rfl
  | object fields =>
      cases fields with
      | nil => rfl
      | cons first rest =>
          obtain ⟨name, value⟩ := first
          cases rest with
          | nil => cases value <;> rfl
          | cons second rest =>
              have length := (sortEntries_perm ((name, value) :: second :: rest)).length_eq
              rw [readVariant_many, sortFields]
              generalize sortEntries ((name, value) :: second :: rest) = sorted at length
              match sorted, length with
              | _ :: _ :: _, _ => exact readVariant_many

end Order

/-- The documents with at most so many nested arrays and objects, numbers of 64 bits and no
name twice in an object. -/
inductive Within : Nat → Json → Prop where
  | null {depth : Nat} : Within depth null
  | number {depth value : Nat} (small : value < 2 ^ 64) : Within depth (number value)
  | string {depth : Nat} {value : String} : Within depth (string value)
  | array {depth : Nat} {items : List Json} (inner : ∀ item ∈ items, Within depth item) :
      Within (depth + 1) (array items)
  | object {depth : Nat} {fields : List (String × Json)} (distinct : (fields.map (·.1)).Nodup)
      (inner : ∀ field ∈ fields, Within depth field.2) : Within (depth + 1) (object fields)

def ReadsWritten (depth : Nat) (read : String → Option Json) : Prop :=
  ∀ document : Json, document.Within depth → read document.render = some document

theorem Within.sortFields {depth : Nat} {document : Json} (within : document.Within depth) :
    document.sortFields.Within depth := by
  induction within with
  | null => exact .null
  | number small => exact .number small
  | string => exact .string
  | array inner ih =>
      rw [Json.sortFields, sortItems_eq]
      apply Within.array
      intro item member
      obtain ⟨source, belongs, rfl⟩ := List.mem_map.mp member
      exact ih source belongs
  | @object depth fields distinct inner ih =>
      rw [Json.sortFields]
      apply Within.object
      · have keys := (sortEntries_perm fields).map (·.1)
        rw [List.map_map] at keys
        exact keys.nodup_iff.mpr distinct
      · intro field member
        obtain ⟨source, belongs, rfl⟩ := List.mem_map.mp ((sortEntries_perm fields).subset member)
        exact ih source belongs

end Json
