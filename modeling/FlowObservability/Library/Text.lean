import Mathlib.Data.List.Basic

/-!
Texts made of fields joined by a separator: a field without the separator can be
read back from the right, whatever the fields before it hold.
-/

namespace Text

section Fields

variable {α : Type}

theorem last_field_inj {separator : α} {left right leftField rightField : List α}
    (same : left ++ separator :: leftField = right ++ separator :: rightField)
    (leftFree : separator ∉ leftField) (rightFree : separator ∉ rightField) :
    left = right ∧ leftField = rightField := by
  rcases List.append_eq_append_iff.mp same with ⟨middle, extended, rest⟩ | ⟨middle, extended, rest⟩
  · cases middle with
    | nil => simp_all
    | cons first middle =>
        simp only [List.cons_append, List.cons.injEq] at rest
        have member : separator ∈ leftField := by simp [rest.2]
        exact (leftFree member).elim
  · cases middle with
    | nil => simp_all
    | cons first middle =>
        simp only [List.cons_append, List.cons.injEq] at rest
        have member : separator ∈ rightField := by simp [rest.2]
        exact (rightFree member).elim

end Fields

theorem utf8ByteSize_le (text : String) : text.utf8ByteSize ≤ 4 * text.length := by
  rw [← @String.ofList_toList text]
  generalize text.toList = chars
  induction chars with
  | nil => simp
  | cons char rest ih =>
      have width := Char.utf8Size_le_four char
      simp only [String.length_ofList] at ih
      rw [String.ofList_cons, String.utf8ByteSize_append, String.utf8ByteSize_singleton,
        String.length_append, String.length_singleton, String.length_ofList]
      omega

theorem decimal_toList (value : Nat) : (toString value).toList = Nat.toDigits 10 value :=
  Nat.toList_repr

theorem decimal_free {separator : Char} (notDigit : separator.isDigit = false) (value : Nat) :
    separator ∉ (toString value).toList := by
  intro member
  rw [decimal_toList] at member
  have digit := Nat.isDigit_of_mem_toDigits (by omega) (by omega) member
  simp [digit] at notDigit

theorem decimal_inj {first second : Nat}
    (same : (toString first).toList = (toString second).toList) : first = second := by
  rw [decimal_toList, decimal_toList] at same
  have values := congrArg (fun digits => Nat.ofDigitChars 10 digits 0) same
  simpa only [Nat.ofDigitChars_ten_toDigits] using values

end Text
