import KeywordValues.Text.Blank

/-!
# Data types of keyword values

Four kinds of scalar, and for each kind one type of single values and one of arrays. Types are
named in texts by `DataType.name`; `DataType.ofName?` reads a name, whatever its padding and
letter case.
-/

namespace KeywordValues

/-- The kinds of scalar a typed value can hold. -/
inductive ScalarKind where
  | string
  | integer
  | number
  | boolean
deriving DecidableEq, Repr

namespace ScalarKind

/-- Every kind, in declaration order. -/
def all : List ScalarKind := [.string, .integer, .number, .boolean]

/-- The name of a kind in diagnostics. -/
def name : ScalarKind → String
  | .string => "string"
  | .integer => "integer"
  | .number => "number"
  | .boolean => "boolean"

/-- The values of a kind. -/
abbrev Carrier : ScalarKind → Type
  | .string => String
  | .integer => Int64
  | .number => Float
  | .boolean => Bool

end ScalarKind

/-- What a keyword's value is declared to carry: one scalar, or an array of scalars of one kind. -/
inductive DataType where
  | scalar (kind : ScalarKind)
  | array (kind : ScalarKind)
deriving DecidableEq, Repr

namespace DataType

/-- Every data type, in declaration order: the four scalar types, then their arrays. -/
def all : List DataType := ScalarKind.all.map scalar ++ ScalarKind.all.map array

theorem mem_all (t : DataType) : t ∈ all := by
  rcases t with k | k <;> cases k <;> decide

/-- The name of a data type in documents and output. -/
def name : DataType → String
  | .scalar .string => "string"
  | .scalar .integer => "integer"
  | .scalar .number => "number"
  | .scalar .boolean => "boolean"
  | .array .string => "string_array"
  | .array .integer => "integer_array"
  | .array .number => "number_array"
  | .array .boolean => "boolean_array"

/-- The kind of scalar that values of this type are made of. -/
def scalarKind : DataType → ScalarKind
  | .scalar k | .array k => k

/-- Whether values of this type are arrays. -/
def isArray : DataType → Bool
  | .scalar _ => false
  | .array _ => true

/-- The representation of values of this type, arrays in brackets. -/
def kindText : DataType → String
  | .scalar k => k.name
  | .array k => "[" ++ k.name ++ "]"

/-- The place in declaration order. -/
def rank (t : DataType) : Nat := all.idxOf t

/-- The data type of a name, up to padding with blanks and the case of ASCII letters. -/
def ofName? (s : String) : Option DataType :=
  all.find? fun t ↦ t.name == Text.foldCase (Text.trim s)

end DataType

/-- A name that no data type has, without its padding. -/
structure UnknownType where
  name : String
deriving DecidableEq, Repr

namespace UnknownType

/-- The wording of the error. -/
def message (e : UnknownType) : String := "unknown data type: " ++ e.name

end UnknownType

namespace DataType

/-- The data type of a name, or the name without its padding. -/
def ofName (s : String) : Except UnknownType DataType :=
  match ofName? s with
  | some t => .ok t
  | none => .error ⟨Text.trim s⟩

/-- Listed by declaration order, equal types next to each other. -/
def sort (ts : List DataType) : List DataType :=
  ts.mergeSort fun a b ↦ a.rank ≤ b.rank

end DataType

end KeywordValues
