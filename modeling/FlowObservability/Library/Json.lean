import Mathlib.Data.List.Basic

/-!
JSON documents made of null, natural numbers, strings, arrays and objects, with
the compact text a serializer writes for them.
-/

inductive Json where
  | null
  | number (value : Nat)
  | string (value : String)
  | array (items : List Json)
  | object (fields : List (String × Json))
  deriving Repr

namespace Json

def hexDigit (value : Nat) : Char :=
  if value < 10 then Char.ofNat (48 + value) else Char.ofNat (87 + value)

def escape (char : Char) : String :=
  if char = '"' then "\\\""
  else if char = '\\' then "\\\\"
  else if char = '\n' then "\\n"
  else if char = '\r' then "\\r"
  else if char = '\t' then "\\t"
  else if char.toNat = 8 then "\\b"
  else if char.toNat = 12 then "\\f"
  else if char.toNat < 32 then
    "\\u00" ++ String.ofList [hexDigit (char.toNat / 16), hexDigit (char.toNat % 16)]
  else char.toString

def quote (text : String) : String :=
  "\"" ++ String.join (text.toList.map escape) ++ "\""

mutual

def render : Json → String
  | null => "null"
  | number value => toString value
  | string value => quote value
  | array items => "[" ++ renderItems items ++ "]"
  | object fields => "\x7b" ++ renderFields fields ++ "\x7d"

def renderItems : List Json → String
  | [] => ""
  | [item] => render item
  | item :: rest => render item ++ "," ++ renderItems rest

def renderFields : List (String × Json) → String
  | [] => ""
  | [(name, value)] => quote name ++ ":" ++ render value
  | (name, value) :: rest => quote name ++ ":" ++ render value ++ "," ++ renderFields rest

end

def insertField (field : String × Json) : List (String × Json) → List (String × Json)
  | [] => [field]
  | first :: rest => if field.1 ≤ first.1 then field :: first :: rest else first :: insertField field rest

mutual

/-- The same document with the fields of every object in the order of their names. -/
def sortFields : Json → Json
  | array items => array (sortItems items)
  | object fields => object (sortEntries fields)
  | value => value

def sortItems : List Json → List Json
  | [] => []
  | item :: rest => sortFields item :: sortItems rest

def sortEntries : List (String × Json) → List (String × Json)
  | [] => []
  | (name, value) :: rest => insertField (name, sortFields value) (sortEntries rest)

end

theorem hexDigit_size {value : Nat} (bound : value < 16) : (hexDigit value).utf8Size = 1 := by
  have digits : ∀ digit : Fin 16, (hexDigit digit).utf8Size = 1 := by decide
  exact digits ⟨value, bound⟩

theorem escape_size (char : Char) : (escape char).utf8ByteSize ≤ 6 := by
  unfold escape
  iterate 7
    split
    · decide
  split
  · have high : (hexDigit (char.toNat / 16)).utf8Size = 1 := hexDigit_size (by omega)
    have low : (hexDigit (char.toNat % 16)).utf8Size = 1 := hexDigit_size (by omega)
    have mark : "\\u00".utf8ByteSize = 4 := rfl
    simp [mark, String.ofList_cons, high, low]
  · have width := Char.utf8Size_le_four char
    rw [Char.toString, String.utf8ByteSize_singleton]
    omega

theorem quote_size (text : String) : (quote text).utf8ByteSize ≤ 6 * text.length + 2 := by
  have escaped : ∀ chars : List Char,
      (String.join (chars.map escape)).utf8ByteSize ≤ 6 * chars.length := by
    intro chars
    induction chars with
    | nil => simp
    | cons char rest ih =>
        have first := escape_size char
        rw [List.map_cons, String.join_cons, String.utf8ByteSize_append, List.length_cons]
        omega
  have body := escaped text.toList
  rw [String.length_toList] at body
  rw [quote, String.utf8ByteSize_append, String.utf8ByteSize_append]
  have mark : "\"".utf8ByteSize = 1 := rfl
  omega

end Json
