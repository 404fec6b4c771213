import KeywordValues.TypedValue

/-!
# Giving a node its data type

A node converts to a scalar type if it is a scalar of that kind, and to an array type if all its
items are of the kind. Two coercions are allowed: an integer is taken as a number, and a single
scalar as an array of one item.
-/

namespace KeywordValues

/-- A value that does not have the form its type asks for. -/
structure Mismatch where
  expected : DataType
  found : Shape
  /-- The place of the item at fault in a sequence. -/
  index : Option Nat
deriving DecidableEq, Repr

namespace Mismatch

/-- The wording of the error. -/
def message (e : Mismatch) : String :=
  "type mismatch: expected " ++ e.expected.name ++ ", found " ++ e.found.name ++
    indexSuffix e.index

end Mismatch

namespace Scalar

/-- The number nearest to an integer. Between two that are as near it is the one with the even
significand. -/
def widen (i : Int64) : Float := .ofModel (.ofInt64 i)

/-- The value of a kind that a scalar gives. An integer gives the nearest number too. -/
def as? : (k : ScalarKind) → Scalar → Option k.Carrier
  | .string, .string s => some s
  | .integer, .integer i => some i
  | .number, .number x => some x
  | .number, .integer i => some (widen i)
  | .boolean, .boolean b => some b
  | _, _ => none

/-- The value of a kind that a scalar gives, or the shape it has instead. -/
def as (k : ScalarKind) (s : Scalar) : Except Shape k.Carrier :=
  match s.as? k with
  | some v => .ok v
  | none => .error (.scalar s.kind)

@[simp] theorem as?_ofCarrier (k : ScalarKind) (v : k.Carrier) :
    (ofCarrier k v).as? k = some v := by
  cases k <;> rfl

end Scalar

/-- A way to give nodes a type. There is one for each data type. -/
structure Routine where
  target : DataType
deriving DecidableEq, Repr

namespace Routine

/-- The value that a node has by the routine's type. -/
def run (r : Routine) (node : Node) : Except Mismatch TypedValue :=
  match r.target, node with
  | .scalar k, .scalar s =>
      match s.as k with
      | .ok v => .ok (.scalar k v)
      | .error found => .error ⟨.scalar k, found, none⟩
  | .scalar k, .sequence _ => .error ⟨.scalar k, .sequence, none⟩
  | .array k, .scalar s =>
      match s.as k with
      | .ok v => .ok (.array k [v])
      | .error found => .error ⟨.array k, found, none⟩
  | .array k, .sequence items =>
      match elementwise (Scalar.as k) items with
      | .ok vs => .ok (.array k vs)
      | .error (found, i) => .error ⟨.array k, found, some i⟩

end Routine

end KeywordValues
