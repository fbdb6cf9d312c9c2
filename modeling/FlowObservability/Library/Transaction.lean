import Mathlib.Data.List.Basic

/-!
Transactions over a store. A body runs on the committed state and may fail at
any point; only a body that returns a value replaces the state.
-/

namespace Transaction

section Bind

variable {ε α β : Type}

theorem bind_ok {first : Except ε α} {next : α → Except ε β} {value : β}
    (result : (first >>= next) = .ok value) :
    ∃ middle, first = .ok middle ∧ next middle = .ok value := by
  cases first with
  | error error => cases result
  | ok middle => exact ⟨middle, rfl, result⟩

theorem pure_ok {value other : α} (result : (pure value : Except ε α) = .ok other) :
    value = other := by
  cases result
  rfl

theorem mapM_of_forall₂ {convert : α → Except ε β} {values others : List α}
    (same : List.Forall₂ (fun first second => convert first = convert second) values others) :
    values.mapM convert = others.mapM convert := by
  induction same with
  | nil => rfl
  | cons first _ ih => rw [List.mapM_cons, List.mapM_cons, first, ih]

theorem mapM_of_ok {convert : α → Except ε β} {value : α → β} {values : List α}
    (converts : ∀ item ∈ values, convert item = .ok (value item)) :
    values.mapM convert = .ok (values.map value) := by
  induction values with
  | nil => rfl
  | cons item rest ih =>
      obtain ⟨first, later⟩ := List.forall_mem_cons.mp converts
      rw [List.mapM_cons, first, ih later]
      rfl

theorem mapM_of_inverse {convert : β → Except ε α} {source : α → β} {values : List α}
    (inverse : ∀ item ∈ values, convert (source item) = .ok item) :
    (values.map source).mapM convert = .ok values := by
  induction values with
  | nil => rfl
  | cons item rest ih =>
      obtain ⟨first, later⟩ := List.forall_mem_cons.mp inverse
      rw [List.map_cons, List.mapM_cons, first, ih later]
      rfl

theorem forall₂_of_mapM {convert : α → Except ε β} {values : List α} {results : List β}
    (converted : values.mapM convert = .ok results) :
    List.Forall₂ (fun value result => convert value = .ok result) values results := by
  induction values generalizing results with
  | nil =>
      cases pure_ok converted
      exact .nil
  | cons value rest ih =>
      rw [List.mapM_cons] at converted
      obtain ⟨first, firstOk, converted⟩ := bind_ok converted
      obtain ⟨later, laterOk, converted⟩ := bind_ok converted
      cases pure_ok converted
      exact .cons firstOk (ih laterOk)

theorem forall₂_mem {related : α → β → Prop} {firsts : List α} {seconds : List β}
    (pairs : List.Forall₂ related firsts seconds) :
    (∀ first ∈ firsts, ∃ second ∈ seconds, related first second) ∧
      ∀ second ∈ seconds, ∃ first ∈ firsts, related first second := by
  induction pairs with
  | nil => simp
  | cons pair _ ih =>
      constructor
      · intro first member
        rcases List.mem_cons.mp member with rfl | later
        · exact ⟨_, List.mem_cons_self, pair⟩
        · obtain ⟨second, belongs, same⟩ := ih.1 first later
          exact ⟨second, List.mem_cons_of_mem _ belongs, same⟩
      · intro second member
        rcases List.mem_cons.mp member with rfl | later
        · exact ⟨_, List.mem_cons_self, pair⟩
        · obtain ⟨first, belongs, same⟩ := ih.2 second later
          exact ⟨first, List.mem_cons_of_mem _ belongs, same⟩

theorem mapM_of_exists {convert : α → Except ε β} {values : List α}
    (converts : ∀ value ∈ values, ∃ result, convert value = .ok result) :
    ∃ results, values.mapM convert = .ok results := by
  induction values with
  | nil => exact ⟨[], rfl⟩
  | cons value rest ih =>
      obtain ⟨⟨result, first⟩, later⟩ := List.forall_mem_cons.mp converts
      obtain ⟨results, others⟩ := ih later
      refine ⟨result :: results, ?_⟩
      rw [List.mapM_cons, first, others]
      rfl

theorem mapM_keys {κ : Type} {convert : α → Except ε β} {key : α → κ} {resultKey : β → κ}
    (keeps : ∀ value result, convert value = .ok result → resultKey result = key value)
    {values : List α} {results : List β} (converted : values.mapM convert = .ok results) :
    results.map resultKey = values.map key := by
  have pairs := forall₂_of_mapM converted
  clear converted
  induction pairs with
  | nil => rfl
  | cons pair _ ih => rw [List.map_cons, List.map_cons, keeps _ _ pair, ih]

theorem mapM_mem {convert : α → Except ε β} {values : List α} {results : List β} {result : β}
    (converted : values.mapM convert = .ok results) (member : result ∈ results) :
    ∃ value ∈ values, convert value = .ok result :=
  (forall₂_mem (forall₂_of_mapM converted)).2 result member

@[simp] theorem ok_bind (value : α) (next : α → Except ε β) :
    ((Except.ok value : Except ε α) >>= next) = next value := rfl

@[simp] theorem error_bind (error : ε) (next : α → Except ε β) :
    ((Except.error error : Except ε α) >>= next) = .error error := rfl

theorem pure_eq_ok (value : α) : (pure value : Except ε α) = .ok value := rfl

theorem bind_of_map {γ : Type} (result : Except ε α) (change : α → γ) (next : γ → Except ε β) :
    (result.map change >>= next) = result >>= fun value => next (change value) := by
  cases result with
  | error error => rfl
  | ok value => rfl

theorem map_of_bind {γ : Type} (result : Except ε α) (next : α → Except ε β) (change : β → γ) :
    (result >>= next).map change = result >>= fun value => (next value).map change := by
  cases result with
  | error error => rfl
  | ok value => rfl

end Bind

section Errors

variable {ε α β : Type}

def Avoids (error : ε) (result : Except ε α) : Prop := result ≠ .error error

theorem avoids_ok {error : ε} (value : α) : Avoids error (.ok value : Except ε α) := by
  simp [Avoids]

theorem avoids_pure {error : ε} (value : α) : Avoids error (pure value : Except ε α) :=
  avoids_ok value

theorem Avoids.bind {error : ε} {first : Except ε α} {next : α → Except ε β}
    (firstAvoids : Avoids error first)
    (nextAvoids : ∀ value, first = .ok value → Avoids error (next value)) :
    Avoids error (first >>= next) := by
  cases first with
  | error other =>
      intro failed
      simp only [error_bind, Except.error.injEq] at failed
      exact firstAvoids (by rw [failed])
  | ok value => exact nextAvoids value rfl

end Errors

section Follows

variable {ε α β γ δ : Type} {failure : ε → Prop} {related : α → β → Prop} {after : γ → δ → Prop}

/-- The computation ends as the ideal one does, in related values or in the same error, unless
it breaks off with such a failure. -/
inductive Follows (failure : ε → Prop) (related : α → β → Prop) : Except ε α → Except ε β → Prop
  | ok {value ideal} : related value ideal → Follows failure related (.ok value) (.ok ideal)
  | error (error) : Follows failure related (.error error) (.error error)
  | failed {error ideal} : failure error → Follows failure related (.error error) ideal

theorem Follows.bind {result : Except ε α} {ideal : Except ε β} {next : α → Except ε γ}
    {idealNext : β → Except ε δ} (first : Follows failure related result ideal)
    (rest : ∀ value other, related value other →
      Follows failure after (next value) (idealNext other)) :
    Follows failure after (result >>= next) (ideal >>= idealNext) := by
  cases first with
  | ok same => exact rest _ _ same
  | error error => exact .error error
  | failed broken => exact .failed broken

theorem Follows.mono {weaker : α → β → Prop} {result : Except ε α} {ideal : Except ε β}
    (follows : Follows failure related result ideal)
    (implies : ∀ value other, related value other → weaker value other) :
    Follows failure weaker result ideal := by
  cases follows with
  | ok same => exact .ok (implies _ _ same)
  | error error => exact .error error
  | failed broken => exact .failed broken

theorem Follows.skip {result : Except ε α} {next : α → Except ε γ} {ideal : Except ε δ} {other : β}
    (first : Follows failure related result (.ok other))
    (rest : ∀ value, related value other → Follows failure after (next value) ideal) :
    Follows failure after (result >>= next) ideal := by
  cases first with
  | ok same => exact rest _ same
  | failed broken => exact .failed broken

theorem Follows.of_ideal_ok {result : Except ε α} {ideal : Except ε β} {other : β}
    (never : ∀ error, ¬failure error) (follows : Follows failure related result ideal)
    (found : ideal = .ok other) : ∃ value, result = .ok value ∧ related value other := by
  cases follows with
  | ok same =>
      cases found
      exact ⟨_, rfl, same⟩
  | error error => cases found
  | failed broken => exact (never _ broken).elim

end Follows

section Commit

variable {σ ε α : Type}

/-- Runs a transaction body: its state is committed when it returns a value and
rolled back when it fails. -/
def transact (body : σ → Except ε (α × σ)) (state : σ) : Except ε α × σ :=
  match body state with
  | .ok (value, next) => (.ok value, next)
  | .error error => (.error error, state)

theorem transact_ok {body : σ → Except ε (α × σ)} {state next : σ} {value : α}
    (result : transact body state = (.ok value, next)) : body state = .ok (value, next) := by
  unfold transact at result
  split at result
  · rename_i found
    simp only [Prod.mk.injEq, Except.ok.injEq] at result
    rw [found, result.1, result.2]
  · simp at result

theorem transact_error {body : σ → Except ε (α × σ)} {state next : σ} {error : ε}
    (result : transact body state = (.error error, next)) : next = state := by
  unfold transact at result
  split at result
  · simp at result
  · simp only [Prod.mk.injEq] at result
    exact result.2.symm

theorem transact_of_ok {body : σ → Except ε (α × σ)} {state next : σ} {value : α}
    (result : body state = .ok (value, next)) : transact body state = (.ok value, next) := by
  simp [transact, result]

theorem transact_of_error {body : σ → Except ε (α × σ)} {state : σ} {error : ε}
    (result : body state = .error error) : transact body state = (.error error, state) := by
  simp [transact, result]

theorem eq_of_fst {outcome : α × σ} {value : α} (same : outcome.1 = value) :
    outcome = (value, outcome.2) := by
  rw [← same]

theorem Follows.transact {τ : Type} {failure : ε → Prop} {represents : σ → τ → Prop}
    {body : σ → Except ε (α × σ)} {ideal : τ → Except ε (α × τ)} {state : σ} {abstract : τ}
    (before : represents state abstract)
    (follows : Follows failure (fun result other => result.1 = other.1 ∧ represents result.2 other.2)
      (body state) (ideal abstract)) :
    ((transact body state).1 = (transact ideal abstract).1 ∧
        represents (transact body state).2 (transact ideal abstract).2) ∨
      ∃ error, failure error ∧ transact body state = (.error error, state) := by
  unfold Transaction.transact
  generalize body state = result at follows
  generalize ideal abstract = other at follows
  cases follows with
  | ok same => exact .inl ⟨congrArg Except.ok same.1, same.2⟩
  | error error => exact .inl ⟨rfl, before⟩
  | failed broken => exact .inr ⟨_, broken, rfl⟩

theorem transact_avoids {body : σ → Except ε (α × σ)} {state : σ} {error : ε}
    (avoids : Avoids error (body state)) : Avoids error (transact body state).1 := by
  unfold transact
  split
  · exact avoids_ok _
  · rename_i other found
    intro failed
    simp only [Except.error.injEq] at failed
    exact avoids (by rw [found, failed])

end Commit

end Transaction
