import KeywordValues.DataType
import KeywordValues.Elementwise
import KeywordValues.Json.Printer
import KeywordValues.Json.Reader

/-!
# Untyped values

A value before it is given a type: one scalar, or a sequence of scalars of any kinds. `Node.ofJson?`
takes the JSON values that have this form, which are strings, booleans, numbers other than the
unsigned integers beyond the signed range, and arrays of these.
-/

namespace KeywordValues

/-- A scalar. Equality of numbers is that of doubles: not-a-number differs from itself and the two
zeros are equal. -/
inductive Scalar where
  | string (s : String)
  | integer (i : Int64)
  | number (x : Float)
  | boolean (b : Bool)
deriving BEq

/-- A scalar, or scalars in order. -/
inductive Node where
  | scalar (s : Scalar)
  | sequence (items : List Scalar)
deriving BEq

/-- What a value looks like: a kind of scalar, or a sequence. -/
inductive Shape where
  | scalar (kind : ScalarKind)
  | sequence
deriving DecidableEq, Repr

/-- The name of a shape in diagnostics. -/
def Shape.name : Shape → String
  | .scalar k => k.name
  | .sequence => "sequence"

namespace Scalar

/-- The kind of a scalar. -/
def kind : Scalar → ScalarKind
  | .string _ => .string
  | .integer _ => .integer
  | .number _ => .number
  | .boolean _ => .boolean

/-- The scalar that a value of a kind is. -/
def ofCarrier : (k : ScalarKind) → k.Carrier → Scalar
  | .string, s => .string s
  | .integer, i => .integer i
  | .number, x => .number x
  | .boolean, b => .boolean b

@[simp] theorem kind_ofCarrier (k : ScalarKind) (v : k.Carrier) : (ofCarrier k v).kind = k := by
  cases k <;> rfl

/-- The text that a reader is shown. -/
def chars : Scalar → List Char
  | .string s => s.toList
  | .integer i => Decimal.integer i.toInt
  | .number x => Decimal.Layout.display.render x
  | .boolean b => (if b then "true" else "false").toList

/-- The JSON form, null for a double that is not a number. -/
def toJson : Scalar → Json
  | .string s => .string s
  | .integer i => .ofInt64 i
  | .number x => .ofDouble x
  | .boolean b => .bool b

end Scalar

namespace Node

/-- The text that a reader is shown: items with commas between them. -/
def chars : Node → List Char
  | .scalar s => s.chars
  | .sequence items => Json.joinComma (items.map Scalar.chars)

/-- The JSON form. -/
def toJson : Node → Json
  | .scalar s => s.toJson
  | .sequence items => .array (items.map Scalar.toJson)

end Node

/-- Why a JSON value is no scalar. -/
inductive NoScalar where
  | null
  | nestedArray
  | object
  | outOfRange (i : Int)
deriving DecidableEq, Repr

namespace NoScalar

/-- The wording of the cause. -/
def message : NoScalar → String
  | .null => "null"
  | .nestedArray => "nested array"
  | .object => "object"
  | .outOfRange i => "integer " ++ Decimal.integerText i ++ " is out of 64-bit signed range"

end NoScalar

/-- A JSON value that is no scalar where one has to be: the value itself, or an item of an array. -/
structure Unsupported where
  cause : NoScalar
  index : Option Nat
deriving DecidableEq, Repr

/-- The words that name the index of an item. -/
def indexSuffix : Option Nat → String
  | some i => " at index " ++ Decimal.naturalText i
  | none => ""

/-- What messages about values without an untyped form begin with. -/
def unsupportedLead : String := "unsupported JSON value: "

namespace Unsupported

/-- The wording of the error. -/
def message (e : Unsupported) : String :=
  unsupportedLead ++ e.cause.message ++ indexSuffix e.index

end Unsupported

namespace Scalar

/-- The scalar that a JSON value is. -/
def ofJson : Json → Except NoScalar Scalar
  | .string s => .ok (.string s)
  | .bool b => .ok (.boolean b)
  | .whole n =>
      match n.toInt64? with
      | some i => .ok (.integer i)
      | none => .error (.outOfRange n.val)
  | .double x => .ok (.number x)
  | .null => .error .null
  | .array _ => .error .nestedArray
  | .object _ => .error .object

end Scalar

namespace Node

/-- The node that a JSON value is. Of several items without a form the first counts. -/
def ofJson : Json → Except Unsupported Node
  | .array items =>
      match elementwise Scalar.ofJson items with
      | .ok ss => .ok (.sequence ss)
      | .error (cause, i) => .error ⟨cause, some i⟩
  | j =>
      match Scalar.ofJson j with
      | .ok s => .ok (.scalar s)
      | .error cause => .error ⟨cause, none⟩

end Node

/-- Why a text is not the JSON form of a node. -/
inductive NodeTextError where
  | invalid (e : Json.ReadError)
  | unsupported (e : Unsupported)
deriving DecidableEq, Repr

namespace NodeTextError

/-- The wording of the error. -/
def message : NodeTextError → String
  | .invalid e => unsupportedLead ++ "invalid JSON: " ++ e.message
  | .unsupported e => e.message

end NodeTextError

namespace Node

/-- The node that a JSON text holds. -/
def read (text : String) : Except NodeTextError Node :=
  match Json.read text with
  | .error e => .error (.invalid e)
  | .ok j => (ofJson j).mapError .unsupported

end Node

end KeywordValues
