import Mathlib.Algebra.Order.BigOperators.Group.List
import Mathlib.Algebra.Order.Ring.Int
import FlowObservability.Library.Transaction

/-!
The part of SQLite and rusqlite both databases use: error values, the checked
conversions between `u64` and INTEGER columns, and statements that can fail.
-/

namespace FlowObservability

inductive ErrorCode where
  | constraintViolation
  | diskFull
  | databaseBusy
  | systemIoFailure
  | tooBig
  | unknown
  deriving DecidableEq, Repr

inductive RusqliteError where
  | sqliteFailure (code : ErrorCode)
  | fromSqlConversionFailure (index : Nat) (message : String)
  | toSqlConversionFailure (message : String)
  | invalidColumnType (index : Nat)
  | queryReturnedNoRows
  deriving DecidableEq, Repr

/-- `anyhow::Error`: a message, or an error of the database passed on by `?`. -/
inductive AnyhowError where
  | message (text : String)
  | sqlite (error : RusqliteError)
  deriving DecidableEq, Repr

def sqlite {α : Type} : Except RusqliteError α → Except AnyhowError α
  | .ok value => .ok value
  | .error error => .error (.sqlite error)

def anyhow {α : Type} : Except String α → Except AnyhowError α
  | .ok value => .ok value
  | .error text => .error (.message text)

def toSqlError {α : Type} : Except String α → Except RusqliteError α
  | .ok value => .ok value
  | .error text => .error (.toSqlConversionFailure text)

def fitsInteger (value : Int) : Bool := decide (-2 ^ 63 ≤ value) && decide (value < 2 ^ 63)

def integer (value : Nat) (field : String) : Except String Int :=
  if value < 2 ^ 63 then .ok value else .error (field ++ " exceeds SQLite INTEGER range")

def negativeInteger (index : Nat) (value : Int) : RusqliteError :=
  .fromSqlConversionFailure index ("negative value " ++ toString value ++ " for unsigned field")

/-- An INTEGER column read as `u64`. SQLite keeps a sum that leaves the INTEGER range
as a REAL, and rusqlite refuses to read a REAL as `i64`. -/
def unsigned (index : Nat) (value : Int) : Except RusqliteError UInt64 :=
  if ¬fitsInteger value then .error (.invalidColumnType index)
  else if value < 0 then .error (negativeInteger index value)
  else .ok (UInt64.ofNat value.toNat)

def optionalUnsigned (index : Nat) : Option Int → Except RusqliteError (Option UInt64)
  | none => .ok none
  | some value => do
    let value ← unsigned index value
    return some value

/-- `SUM` over INTEGER values: SQLite reports an integer overflow as soon as a
partial sum leaves the INTEGER range. -/
def sumFrom : Int → List Int → Except RusqliteError Int
  | total, [] => .ok total
  | total, value :: rest =>
    if fitsInteger (total + value) then sumFrom (total + value) rest
    else .error (.sqliteFailure .unknown)

def sumOf (values : List Int) : Except RusqliteError Int := sumFrom 0 values

/-- How the database engine behaves during one call: the error each statement
ends in on the given tables, if it fails. -/
abbrev Faults (Statement Tables : Type) := Statement → Tables → Option ErrorCode

def noFaults {Statement Tables : Type} : Faults Statement Tables := fun _ _ => none

def runs {Statement Tables : Type} (faults : Faults Statement Tables) (statement : Statement)
    (tables : Tables) : Except RusqliteError Unit :=
  match faults statement tables with
  | none => .ok ()
  | some code => .error (.sqliteFailure code)

@[simp] theorem runs_noFaults {Statement Tables : Type} (statement : Statement) (tables : Tables) :
    runs noFaults statement tables = .ok () := rfl

@[simp] theorem sqlite_ok {α : Type} (value : α) : sqlite (.ok value) = .ok value := rfl

@[simp] theorem sqlite_eq_ok {α : Type} {result : Except RusqliteError α} {value : α} :
    sqlite result = .ok value ↔ result = .ok value := by
  cases result <;> simp [sqlite]

@[simp] theorem anyhow_ok {α : Type} (value : α) : anyhow (.ok value) = .ok value := rfl

@[simp] theorem anyhow_eq_ok {α : Type} {result : Except String α} {value : α} :
    anyhow result = .ok value ↔ result = .ok value := by
  cases result <;> simp [anyhow]

@[simp] theorem toSqlError_ok {α : Type} (value : α) : toSqlError (.ok value) = .ok value := rfl

@[simp] theorem toSqlError_eq_ok {α : Type} {result : Except String α} {value : α} :
    toSqlError result = .ok value ↔ result = .ok value := by
  cases result <;> simp [toSqlError]

theorem integer_ok {value : Nat} {field : String} {column : Int}
    (result : integer value field = .ok column) : column = value ∧ value < 2 ^ 63 := by
  unfold integer at result
  split at result
  · rename_i bound
    simp only [Except.ok.injEq] at result
    exact ⟨result.symm, bound⟩
  · simp at result

theorem integer_of_lt {value : Nat} (field : String) (bound : value < 2 ^ 63) :
    integer value field = .ok (value : Int) := by
  rw [integer, if_pos bound]

theorem unsigned_ok {index : Nat} {column : Int} {value : UInt64}
    (result : unsigned index column = .ok value) :
    column = value.toNat ∧ value.toNat < 2 ^ 63 := by
  unfold unsigned at result
  split at result
  · simp at result
  · rename_i fits
    split at result
    · simp at result
    · rename_i nonnegative
      simp only [fitsInteger, Bool.and_eq_true, decide_eq_true_eq, not_not] at fits
      simp only [Except.ok.injEq] at result
      subst result
      have small : column.toNat < 2 ^ 64 := by omega
      rw [UInt64.toNat_ofNat_of_lt' small]
      omega

theorem unsigned_of_nat {index : Nat} {value : Nat} (bound : value < 2 ^ 63) :
    unsigned index (value : Int) = .ok (UInt64.ofNat value) := by
  have fits : fitsInteger (value : Int) = true := by
    simp only [fitsInteger, Bool.and_eq_true, decide_eq_true_eq]
    omega
  have nonnegative : ¬(value : Int) < 0 := by omega
  simp [unsigned, fits]

theorem optionalUnsigned_ok {index : Nat} {column : Option Int} {value : Option UInt64}
    (result : optionalUnsigned index column = .ok value) :
    column = value.map fun number => (number.toNat : Int) := by
  cases column with
  | none =>
      simp only [optionalUnsigned, Except.ok.injEq] at result
      simp [← result]
  | some column =>
      simp only [optionalUnsigned] at result
      obtain ⟨number, read, result⟩ := Transaction.bind_ok result
      have same := Transaction.pure_ok result
      subst same
      simp [(unsigned_ok read).1]

theorem sumFrom_ok {values : List Int} {start total : Int}
    (result : sumFrom start values = .ok total) : total = start + values.sum := by
  induction values generalizing start with
  | nil =>
      simp only [sumFrom, Except.ok.injEq] at result
      simp [result]
  | cons value rest ih =>
      simp only [sumFrom] at result
      split at result
      · have tail := ih result
        simp only [List.sum_cons]
        omega
      · simp at result

theorem sumOf_ok {values : List Int} {total : Int} (result : sumOf values = .ok total) :
    total = values.sum := by
  simpa using sumFrom_ok result

theorem sumFrom_of_nonneg {values : List Int} (nonneg : ∀ value ∈ values, 0 ≤ value) {start : Int}
    (positive : 0 ≤ start) (small : start < 2 ^ 63) :
    sumFrom start values = if start + values.sum < 2 ^ 63 then .ok (start + values.sum)
      else .error (.sqliteFailure .unknown) := by
  induction values generalizing start with
  | nil => rw [sumFrom, List.sum_nil, Int.add_zero, if_pos small]
  | cons value rest ih =>
      obtain ⟨first, later⟩ := List.forall_mem_cons.mp nonneg
      have restNonneg : 0 ≤ rest.sum := List.sum_nonneg later
      rw [sumFrom, List.sum_cons, ← Int.add_assoc]
      by_cases fits : start + value < 2 ^ 63
      · have inside : fitsInteger (start + value) = true := by
          simp only [fitsInteger, Bool.and_eq_true, decide_eq_true_eq]
          omega
        rw [if_pos inside, ih later (by omega) fits]
      · have outside : ¬fitsInteger (start + value) = true := by
          simp only [fitsInteger, Bool.and_eq_true, decide_eq_true_eq]
          omega
        rw [if_neg outside, if_neg (by omega)]

theorem sumOf_of_nonneg {values : List Int} (nonneg : ∀ value ∈ values, 0 ≤ value) :
    sumOf values = if values.sum < 2 ^ 63 then .ok values.sum
      else .error (.sqliteFailure .unknown) := by
  simpa [sumOf] using sumFrom_of_nonneg nonneg (Int.le_refl 0) (by decide)

/-! A constraint violation comes from a check of a key, and from nothing else: none of the
conversions reports one. -/

def constraintError : RusqliteError := .sqliteFailure .constraintViolation

/-- The engine reports no constraint violation of its own making. -/
def FaultsKeepKeys {Statement Tables : Type} (faults : Faults Statement Tables) : Prop :=
  ∀ statement tables, faults statement tables ≠ some .constraintViolation

section EngineFailures

open Transaction

variable {Statement Tables : Type} {faults : Faults Statement Tables}

def EngineFailure (faults : Faults Statement Tables) (error : RusqliteError) : Prop :=
  ∃ statement tables code, faults statement tables = some code ∧ error = .sqliteFailure code

theorem not_engineFailure_noFaults (error : RusqliteError) :
    ¬EngineFailure (noFaults : Faults Statement Tables) error := by
  rintro ⟨_, _, _, failed, _⟩
  simp [noFaults] at failed

theorem not_engineFailure_constraint (keeps : FaultsKeepKeys faults) :
    ¬EngineFailure faults constraintError := by
  rintro ⟨statement, tables, code, failed, same⟩
  simp only [constraintError, RusqliteError.sqliteFailure.injEq] at same
  exact keeps statement tables (by rw [failed, same])

theorem runs_follows (statement : Statement) (tables : Tables) :
    Follows (EngineFailure faults) (fun _ _ => True) (runs faults statement tables)
      (.ok () : Except RusqliteError Unit) := by
  unfold runs
  split
  · exact .ok trivial
  · rename_i code failed
    exact .failed ⟨statement, tables, code, failed, rfl⟩

end EngineFailures

section Constraints

open Transaction

theorem runs_avoids {Statement Tables : Type} {faults : Faults Statement Tables}
    (keeps : FaultsKeepKeys faults) (statement : Statement) (tables : Tables) :
    Avoids constraintError (runs faults statement tables) := by
  unfold runs
  split
  · exact avoids_ok _
  · rename_i code failed
    intro same
    simp only [constraintError, Except.error.injEq, RusqliteError.sqliteFailure.injEq] at same
    exact keeps statement tables (by rw [failed, same])

theorem sqlite_avoids {α : Type} {result : Except RusqliteError α}
    (avoids : Avoids constraintError result) :
    Avoids (AnyhowError.sqlite constraintError) (sqlite result) := by
  cases result with
  | ok value => exact avoids_ok value
  | error error =>
      intro same
      simp only [sqlite, Except.error.injEq, AnyhowError.sqlite.injEq] at same
      exact avoids (by rw [same])

theorem anyhow_avoids {α : Type} (result : Except String α) :
    Avoids (AnyhowError.sqlite constraintError) (anyhow result) := by
  cases result <;> simp [anyhow, Avoids]

theorem toSqlError_avoids {α : Type} (result : Except String α) :
    Avoids constraintError (toSqlError result) := by
  cases result <;> simp [toSqlError, Avoids, constraintError]

theorem unsigned_avoids (index : Nat) (value : Int) :
    Avoids constraintError (unsigned index value) := by
  unfold unsigned
  split
  · simp [Avoids, constraintError]
  · split
    · simp [Avoids, constraintError, negativeInteger]
    · exact avoids_ok _

theorem optionalUnsigned_avoids (index : Nat) (value : Option Int) :
    Avoids constraintError (optionalUnsigned index value) := by
  cases value with
  | none => exact avoids_ok _
  | some value => exact (unsigned_avoids index value).bind fun _ _ => avoids_pure _

theorem sumFrom_avoids (start : Int) (values : List Int) :
    Avoids constraintError (sumFrom start values) := by
  induction values generalizing start with
  | nil => exact avoids_ok _
  | cons value rest ih =>
      simp only [sumFrom]
      split
      · exact ih _
      · simp [Avoids, constraintError]

end Constraints

end FlowObservability
