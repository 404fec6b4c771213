import KeywordValues.NameMap
import KeywordValues.Decimal.Word

/-!
# JSON values

A JSON value as documents hold it: whole numbers of 64 bits, signed or unsigned, next to doubles,
and objects as lists of members. `Json.fields?` is the map an object stands for, in which the last
of several members of one name counts.
-/

namespace KeywordValues

/-- A JSON value. -/
inductive Json where
  | null
  | bool (b : Bool)
  | whole (n : Decimal.Word)
  | double (x : Float)
  | string (s : String)
  | array (items : List Json)
  | object (members : List (String × Json))

namespace Json

/-- The map that an object stands for. -/
def fields? : Json → Option (NameMap Json)
  | .object members => some (.ofList members)
  | _ => none

/-- The object that lists a map's entries. -/
def ofFields (m : NameMap Json) : Json := .object m.entries

/-- A double that is a number, and null for the others. -/
def ofDouble (x : Float) : Json := if x.isFinite then .double x else .null

/-- A signed word. -/
def ofInt64 (i : Int64) : Json := .whole (.ofInt64 i)

end Json

end KeywordValues
