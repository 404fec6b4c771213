import KeywordValues.Json.Basic
import KeywordValues.Json.Quoted
import KeywordValues.Decimal.Layout

/-!
# Compact JSON texts

A value without blanks, the members of an object in the order in which they are listed.
-/

namespace KeywordValues.Json

/-- Texts with commas between them. -/
def joinComma : List (List Char) → List Char
  | [] => []
  | [t] => t
  | t :: ts => t ++ ',' :: joinComma ts

mutual

/-- The compact text of a value. -/
def chars : Json → List Char
  | .null => "null".toList
  | .bool b => (if b then "true" else "false").toList
  | .whole n => Decimal.integer n.val
  | .double x => Decimal.Layout.json.render x
  | .string s => Quoted.quote s.toList
  | .array items => '[' :: (joinComma (itemChars items) ++ [']'])
  | .object members => '{' :: (joinComma (memberChars members) ++ ['}'])

/-- The compact texts of the items of an array. -/
def itemChars : List Json → List (List Char)
  | [] => []
  | j :: js => chars j :: itemChars js

/-- The compact texts of the members of an object. -/
def memberChars : List (String × Json) → List (List Char)
  | [] => []
  | (k, j) :: ms => (Quoted.quote k.toList ++ ':' :: chars j) :: memberChars ms

end

/-- The compact text of a value. -/
def print (j : Json) : String := String.ofList j.chars

@[simp] theorem toList_print (j : Json) : j.print.toList = j.chars := by simp [print]

end KeywordValues.Json
