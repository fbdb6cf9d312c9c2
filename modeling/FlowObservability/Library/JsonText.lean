import Mathlib.Tactic.IntervalCases
import FlowObservability.Library.Json
import FlowObservability.Library.Text

/-!
A reader of the compact texts that documents are written as, and the round trip: what is
written is read back.
-/

namespace Json

open Text

def readNumber (chars : List Char) : Option (Nat × List Char) :=
  if chars.takeWhile Char.isDigit = [] then none
  else some (Nat.ofDigitChars 10 (chars.takeWhile Char.isDigit) 0, chars.dropWhile Char.isDigit)

def hexValue (char : Char) : Nat :=
  if char.isDigit then char.toNat - 48 else char.toNat - 87

def unescape (char : Char) : Char :=
  if char = 'n' then '\n'
  else if char = 'r' then '\r'
  else if char = 't' then '\t'
  else if char = 'b' then Char.ofNat 8
  else if char = 'f' then Char.ofNat 12
  else char

/-- The rest of a string literal, up to the mark that closes it, and what follows it. -/
def readChars : List Char → Option (List Char × List Char)
  | [] => none
  | '"' :: rest => some ([], rest)
  | '\\' :: 'u' :: '0' :: '0' :: high :: low :: rest =>
    (readChars rest).map fun read =>
      (Char.ofNat (16 * hexValue high + hexValue low) :: read.1, read.2)
  | '\\' :: char :: rest => (readChars rest).map fun read => (unescape char :: read.1, read.2)
  | char :: rest => (readChars rest).map fun read => (char :: read.1, read.2)

mutual

def readValue : Nat → List Char → Option (Json × List Char)
  | 0, _ => none
  | fuel + 1, chars =>
    match chars with
    | 'n' :: 'u' :: 'l' :: 'l' :: rest => some (null, rest)
    | '"' :: rest => (readChars rest).map fun read => (string (String.ofList read.1), read.2)
    | '[' :: ']' :: rest => some (array [], rest)
    | '[' :: rest => (readItems fuel rest).map fun read => (array read.1, read.2)
    | '\x7b' :: '\x7d' :: rest => some (object [], rest)
    | '\x7b' :: rest => (readFields fuel rest).map fun read => (object read.1, read.2)
    | chars => (readNumber chars).map fun read => (number read.1, read.2)

def readItems : Nat → List Char → Option (List Json × List Char)
  | 0, _ => none
  | fuel + 1, chars =>
    match readValue fuel chars with
    | some (item, ',' :: rest) => (readItems fuel rest).map fun read => (item :: read.1, read.2)
    | some (item, ']' :: rest) => some ([item], rest)
    | _ => none

def readFields : Nat → List Char → Option (List (String × Json) × List Char)
  | 0, _ => none
  | fuel + 1, chars =>
    match chars with
    | '"' :: rest =>
      match readChars rest with
      | some (name, ':' :: rest) =>
        match readValue fuel rest with
        | some (value, ',' :: rest) =>
          (readFields fuel rest).map fun read => ((String.ofList name, value) :: read.1, read.2)
        | some (value, '\x7d' :: rest) => some ([(String.ofList name, value)], rest)
        | _ => none
      | _ => none
    | _ => none

end

def parse (text : String) : Option Json :=
  match readValue text.length text.toList with
  | some (document, []) => some document
  | _ => none

section Leaves

variable {rest : List Char}

theorem readNumber_decimal (value : Nat) (ends : rest.takeWhile Char.isDigit = []) :
    readNumber ((toString value).toList ++ rest) = some (value, rest) := by
  have digits : ∀ char ∈ (toString value).toList, char.isDigit = true := by
    intro char member
    rw [decimal_toList] at member
    exact Nat.isDigit_of_mem_toDigits (by omega) (by omega) member
  have left : rest.dropWhile Char.isDigit = rest := by
    have whole := List.takeWhile_append_dropWhile (p := Char.isDigit) (l := rest)
    rwa [ends, List.nil_append] at whole
  have nonempty : (toString value).toList ≠ [] := by
    rw [decimal_toList]
    exact Nat.toDigits_ne_nil
  rw [readNumber, List.takeWhile_append_of_pos digits, List.dropWhile_append_of_pos digits, ends,
    left, List.append_nil, if_neg nonempty, decimal_toList, Nat.ofDigitChars_ten_toDigits]

theorem hexValue_hexDigit {value : Nat} (bound : value < 16) : hexValue (hexDigit value) = value := by
  interval_cases value <;> decide

theorem readChars_plain {char : Char} (notQuote : char ≠ '"') (notEscape : char ≠ '\\')
    (rest : List Char) :
    readChars (char :: rest) = (readChars rest).map fun read => (char :: read.1, read.2) := by
  rw [readChars.eq_def]
  split <;> simp_all

theorem readChars_escape (char : Char) (rest : List Char) :
    readChars ((escape char).toList ++ rest) =
      (readChars rest).map fun read => (char :: read.1, read.2) := by
  unfold escape
  split_ifs with quote slash newline carriage tab backspace feed control
  · rw [quote]
    rfl
  · rw [slash]
    rfl
  · rw [newline]
    rfl
  · rw [carriage]
    rfl
  · rw [tab]
    rfl
  · rw [← Char.ofNat_toNat char, backspace]
    rfl
  · rw [← Char.ofNat_toNat char, feed]
    rfl
  · have digits : 16 * hexValue (hexDigit (char.toNat / 16)) +
        hexValue (hexDigit (char.toNat % 16)) = char.toNat := by
      rw [hexValue_hexDigit (by omega), hexValue_hexDigit (by omega)]
      omega
    have read : readChars ('\\' :: 'u' :: '0' :: '0' :: hexDigit (char.toNat / 16) ::
        hexDigit (char.toNat % 16) :: rest) =
          (readChars rest).map fun read => (char :: read.1, read.2) := by
      rw [readChars, digits, Char.ofNat_toNat]
    simpa [String.toList_append] using read
  · simpa using readChars_plain quote slash rest

theorem readChars_quoted (chars rest : List Char) :
    readChars ((String.join (chars.map escape)).toList ++ '"' :: rest) = some (chars, rest) := by
  induction chars with
  | nil => rfl
  | cons char chars ih =>
      rw [List.map_cons, String.join_cons, String.toList_append, List.append_assoc,
        readChars_escape, ih]
      rfl

theorem quote_toList (text : String) (rest : List Char) :
    (quote text).toList ++ rest =
      '"' :: ((String.join (text.toList.map escape)).toList ++ '"' :: rest) := by
  simp [quote, String.toList_append]

theorem readValue_quoted (fuel : Nat) (text : String) :
    readValue (fuel + 1) ((quote text).toList ++ rest) = some (string text, rest) := by
  rw [quote_toList, readValue]
  simp only [readChars_quoted, Option.map_some, String.ofList_toList]

theorem readValue_number (fuel value : Nat) (ends : rest.takeWhile Char.isDigit = []) :
    readValue (fuel + 1) ((toString value).toList ++ rest) = some (number value, rest) := by
  have read := readNumber_decimal value ends
  obtain ⟨first, digits, split⟩ : ∃ first digits, (toString value).toList = first :: digits := by
    rw [decimal_toList]
    exact List.exists_cons_of_ne_nil Nat.toDigits_ne_nil
  have digit : first.isDigit = true := by
    apply Nat.isDigit_of_mem_toDigits (b := 10) (n := value) (by omega) (by omega)
    rw [← decimal_toList, split]
    exact List.mem_cons_self
  rw [split, List.cons_append] at read ⊢
  rw [readValue]
  · rw [read]
    rfl
  all_goals
    intro tail same
    rw [(List.cons.inj same).1] at digit
    exact absurd digit (by decide)

end Leaves

/-! A round of the reader for each value written. -/

mutual

def size : Json → Nat
  | array items => 1 + sizeItems items
  | object fields => 1 + sizeFields fields
  | _ => 1

def sizeItems : List Json → Nat
  | [] => 0
  | item :: rest => 1 + size item + sizeItems rest

def sizeFields : List (String × Json) → Nat
  | [] => 0
  | (_, value) :: rest => 1 + size value + sizeFields rest

end

theorem size_pos (document : Json) : 0 < document.size := by
  cases document <;> simp only [size] <;> omega

theorem readItems_close (fuel : Nat) (rest : List Char) : readItems fuel (']' :: rest) = none := by
  cases fuel with
  | zero => rfl
  | succ fuel =>
      cases fuel with
      | zero => rfl
      | succ fuel => rfl

theorem readFields_close (fuel : Nat) (rest : List Char) :
    readFields fuel ('\x7d' :: rest) = none := by
  cases fuel with
  | zero => rfl
  | succ fuel => rfl

mutual

theorem readValue_render (document : Json) (fuel : Nat) (rest : List Char)
    (enough : document.size ≤ fuel) (ends : rest.takeWhile Char.isDigit = []) :
    readValue fuel (document.render.toList ++ rest) = some (document, rest) := by
  obtain ⟨fuel, rfl⟩ : ∃ less, fuel = less + 1 :=
    Nat.exists_eq_add_one.mpr (document.size_pos.trans_le enough)
  cases document with
  | null => rfl
  | number value => exact readValue_number fuel value ends
  | string value => exact readValue_quoted fuel value
  | array items =>
      cases items with
      | nil => rfl
      | cons item items =>
          simp only [size] at enough
          have read : readItems fuel ((renderItems (item :: items)).toList ++ ']' :: rest) =
              some (item :: items, rest) :=
            readItems_render (item :: items) fuel rest (by simp) (by omega)
          have text : (render (array (item :: items))).toList ++ rest =
              '[' :: ((renderItems (item :: items)).toList ++ ']' :: rest) := by
            simp [render, String.toList_append]
          rw [text, readValue]
          · rw [read]
            rfl
          · intro tail closed
            rw [closed, readItems_close] at read
            cases read
  | object fields =>
      cases fields with
      | nil => rfl
      | cons field fields =>
          simp only [size] at enough
          have read : readFields fuel ((renderFields (field :: fields)).toList ++ '\x7d' :: rest) =
              some (field :: fields, rest) :=
            readFields_render (field :: fields) fuel rest (by simp) (by omega)
          have text : (render (object (field :: fields))).toList ++ rest =
              '\x7b' :: ((renderFields (field :: fields)).toList ++ '\x7d' :: rest) := by
            simp [render, String.toList_append]
          rw [text, readValue]
          · rw [read]
            rfl
          · intro tail closed
            rw [closed, readFields_close] at read
            cases read

theorem readItems_render (items : List Json) (fuel : Nat) (rest : List Char)
    (inhabited : items ≠ []) (enough : sizeItems items ≤ fuel) :
    readItems fuel ((renderItems items).toList ++ ']' :: rest) = some (items, rest) := by
  cases items with
  | nil => exact absurd rfl inhabited
  | cons item items =>
      have positive := item.size_pos
      obtain ⟨fuel, rfl⟩ : ∃ less, fuel = less + 1 := by
        refine Nat.exists_eq_add_one.mpr (lt_of_lt_of_le ?_ enough)
        simp only [sizeItems]
        omega
      simp only [sizeItems] at enough
      cases items with
      | nil =>
          rw [renderItems, readItems, readValue_render item fuel _ (by omega) (by rfl)]
          rfl
      | cons next items =>
          have first := readValue_render item fuel
            (',' :: ((renderItems (next :: items)).toList ++ ']' :: rest)) (by omega) (by rfl)
          have later := readItems_render (next :: items) fuel rest (by simp) (by omega)
          have text : (renderItems (item :: next :: items)).toList ++ ']' :: rest =
              item.render.toList ++ ',' :: ((renderItems (next :: items)).toList ++ ']' :: rest) := by
            simp [renderItems, String.toList_append]
          rw [text, readItems, first]
          simp only [later, Option.map_some]

theorem readFields_render (fields : List (String × Json)) (fuel : Nat) (rest : List Char)
    (inhabited : fields ≠ []) (enough : sizeFields fields ≤ fuel) :
    readFields fuel ((renderFields fields).toList ++ '\x7d' :: rest) = some (fields, rest) := by
  cases fields with
  | nil => exact absurd rfl inhabited
  | cons field fields =>
      obtain ⟨name, value⟩ := field
      have positive := value.size_pos
      obtain ⟨fuel, rfl⟩ : ∃ less, fuel = less + 1 := by
        refine Nat.exists_eq_add_one.mpr (lt_of_lt_of_le ?_ enough)
        simp only [sizeFields]
        omega
      simp only [sizeFields] at enough
      cases fields with
      | nil =>
          have text : (renderFields [(name, value)]).toList ++ '\x7d' :: rest =
              (quote name).toList ++ ':' :: (value.render.toList ++ '\x7d' :: rest) := by
            simp [renderFields, String.toList_append]
          have first := readValue_render value fuel ('\x7d' :: rest) (by omega) (by rfl)
          rw [text, quote_toList, readFields, readChars_quoted]
          simp only [first, String.ofList_toList]
      | cons next fields =>
          have first := readValue_render value fuel
            (',' :: ((renderFields (next :: fields)).toList ++ '\x7d' :: rest)) (by omega) (by rfl)
          have later := readFields_render (next :: fields) fuel rest (by simp) (by omega)
          have text : (renderFields ((name, value) :: next :: fields)).toList ++ '\x7d' :: rest =
              (quote name).toList ++ ':' :: (value.render.toList ++ ',' ::
                ((renderFields (next :: fields)).toList ++ '\x7d' :: rest)) := by
            simp [renderFields, String.toList_append]
          rw [text, quote_toList, readFields, readChars_quoted]
          simp only [first, later, Option.map_some, String.ofList_toList]

end

/-! The text is long enough for a round each. -/

mutual

theorem size_le_length (document : Json) : document.size ≤ document.render.toList.length := by
  cases document with
  | null => decide
  | number value =>
      have digits : 0 < (Nat.toDigits 10 value).length := Nat.length_toDigits_pos
      simp only [size, render, decimal_toList]
      omega
  | string value => simp [size, render, quote]
  | array items =>
      have bound := sizeItems_le_length items
      simp only [size, render, String.toList_append, List.length_append]
      have marks : "[".toList.length = 1 ∧ "]".toList.length = 1 := ⟨rfl, rfl⟩
      omega
  | object fields =>
      have bound := sizeFields_le_length fields
      simp only [size, render, String.toList_append, List.length_append]
      have marks : "\x7b".toList.length = 1 ∧ "\x7d".toList.length = 1 := ⟨rfl, rfl⟩
      omega

theorem sizeItems_le_length (items : List Json) :
    sizeItems items ≤ (renderItems items).toList.length + 1 := by
  cases items with
  | nil => simp [sizeItems]
  | cons item items =>
      have first := size_le_length item
      cases items with
      | nil =>
          simp only [sizeItems, renderItems]
          omega
      | cons next items =>
          have later := sizeItems_le_length (next :: items)
          have text : (renderItems (item :: next :: items)).toList =
              item.render.toList ++ ',' :: (renderItems (next :: items)).toList := by
            simp [renderItems, String.toList_append]
          rw [sizeItems, text, List.length_append, List.length_cons]
          omega

theorem sizeFields_le_length (fields : List (String × Json)) :
    sizeFields fields ≤ (renderFields fields).toList.length + 1 := by
  cases fields with
  | nil => simp [sizeFields]
  | cons field fields =>
      obtain ⟨name, value⟩ := field
      have first := size_le_length value
      cases fields with
      | nil =>
          simp only [sizeFields, renderFields, String.toList_append, List.length_append]
          omega
      | cons next fields =>
          have later := sizeFields_le_length (next :: fields)
          have text : (renderFields ((name, value) :: next :: fields)).toList =
              (quote name).toList ++ ':' ::
                (value.render.toList ++ ',' :: (renderFields (next :: fields)).toList) := by
            simp [renderFields, String.toList_append]
          rw [sizeFields, text, List.length_append, List.length_cons, List.length_append,
            List.length_cons]
          omega

end

theorem parse_render (document : Json) : parse document.render = some document := by
  have enough := document.size_le_length
  rw [String.length_toList] at enough
  have read := readValue_render document document.render.length [] enough rfl
  rw [List.append_nil] at read
  rw [parse, read]

end Json
