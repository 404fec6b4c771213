import KeywordValues.Node

/-!
# Typed values

A value together with its data type, so that the payload of an array holds scalars of one kind only.
-/

namespace KeywordValues

/-- A value of a data type. -/
inductive TypedValue where
  | scalar (kind : ScalarKind) (value : kind.Carrier)
  | array (kind : ScalarKind) (items : List kind.Carrier)

namespace TypedValue

/-- The type of a value. -/
def dataType : TypedValue → DataType
  | .scalar k _ => .scalar k
  | .array k _ => .array k

/-- The payload without its type. -/
def toNode : TypedValue → Node
  | .scalar k v => .scalar (.ofCarrier k v)
  | .array k vs => .sequence (vs.map (.ofCarrier k))

/-- The payload of a scalar of a given kind. -/
def scalar? (k : ScalarKind) : TypedValue → Option k.Carrier
  | .scalar k' v => if h : k' = k then some (h ▸ v) else none
  | .array _ _ => none

/-- The payload of an array of scalars of a given kind. -/
def array? (k : ScalarKind) : TypedValue → Option (List k.Carrier)
  | .scalar _ _ => none
  | .array k' vs => if h : k' = k then some (h ▸ vs) else none

/-- How many scalars a value holds. -/
def size : TypedValue → Nat
  | .scalar _ _ => 1
  | .array _ vs => vs.length

/-- Whether a value holds no scalars. -/
def isEmpty (v : TypedValue) : Bool := v.size == 0

/-- The JSON form. -/
def toJson (v : TypedValue) : Json := v.toNode.toJson

/-- The text that a reader is shown. -/
def display (v : TypedValue) : String := String.ofList v.toNode.chars

/-- Values are equal if they have one type and equal payloads. Equality of numbers is that of
doubles. -/
instance : BEq TypedValue := ⟨fun v w ↦ v.dataType == w.dataType && v.toNode == w.toNode⟩

end TypedValue

end KeywordValues
