import KeywordValues.Conversion

/-!
# The registry of conversion routines

A registry binds every data type to a routine. `Registry.ofBindings` accepts a list of bindings that
binds each type once, and each to a routine that makes a value of that type from a sample.
-/

namespace KeywordValues

/-- A data type and the routine that is to give values this type. -/
structure Binding where
  type : DataType
  routine : Routine
deriving DecidableEq, Repr

/-- Why bindings form no registry. -/
inductive RegistryFault where
  /-- The routine of a type makes values of another type. -/
  | produces (bound produced : DataType)
  /-- The routine of a type does not take a sample of its kind. -/
  | rejects (bound : DataType) (cause : Mismatch)
  | repeated (type : DataType)
  | unbound (types : List DataType)
deriving DecidableEq, Repr

namespace RegistryFault

/-- The wording of the fault. -/
def message : RegistryFault → String
  | .produces t u =>
      "invalid data type registry: " ++ t.name ++ " bound to a routine producing " ++ u.kindText ++
        " (requires " ++ t.kindText ++ ")"
  | .rejects t e =>
      "invalid data type registry: " ++ t.name ++ " bound to a routine that rejects " ++
        t.scalarKind.name ++ ": " ++ e.message
  | .repeated t => "invalid data type registry: " ++ t.name ++ " bound more than once"
  | .unbound ts =>
      "invalid data type registry: unbound data types: " ++
        ", ".intercalate (ts.map DataType.name)

end RegistryFault

/-- A scalar of a kind. The number is no integer, so no routine for integers takes it. -/
def Scalar.sample : ScalarKind → Scalar
  | .string => .string ""
  | .integer => .integer 0
  | .number => .number 0.5
  | .boolean => .boolean false

namespace Binding

/-- The node that a binding is tried on. -/
def sample (b : Binding) : Node := .scalar (.sample b.type.scalarKind)

/-- Whether the routine makes a value of the bound type from the sample. -/
def check (b : Binding) : Except RegistryFault Unit :=
  match b.routine.run b.sample with
  | .ok v => if v.dataType = b.type then .ok () else .error (.produces b.type v.dataType)
  | .error e => .error (.rejects b.type e)

end Binding

/-- A routine for every data type. -/
structure Registry where
  bindings : List Binding
  total : ∀ t, (bindings.find? (·.type = t)).isSome

namespace Registry

/-- Checks bindings in order, given the types that are bound already, and collects the types. -/
def checkAll (bound : List DataType) : List Binding → Except RegistryFault (List DataType)
  | [] => .ok bound
  | b :: bs =>
      match b.check with
      | .error e => .error e
      | .ok () =>
          if b.type ∈ bound then .error (.repeated b.type)
          else checkAll (b.type :: bound) bs

/-- The types without a binding, in declaration order. -/
def missing (bs : List Binding) : List DataType :=
  DataType.all.filter fun t ↦ !(bs.find? (·.type = t)).isSome

theorem total_of_missing {bs : List Binding} (h : missing bs = []) (t : DataType) :
    (bs.find? (·.type = t)).isSome := by
  simpa using List.filter_eq_nil_iff.1 h t (DataType.mem_all t)

/-- The registry of a list of bindings. The first binding that fails its check or repeats a type is
reported, and types that are missing only if there is none. -/
def ofBindings (bs : List Binding) : Except RegistryFault Registry :=
  match checkAll [] bs with
  | .error e => .error e
  | .ok _ =>
      if h : missing bs = [] then .ok ⟨bs, total_of_missing h⟩ else .error (.unbound (missing bs))

/-- The binding of a type. -/
def binding (r : Registry) (t : DataType) : Binding :=
  (r.bindings.find? (·.type = t)).get (r.total t)

/-- The value that a node has by a type. -/
def convert (r : Registry) (t : DataType) (node : Node) : Except Mismatch TypedValue :=
  (r.binding t).routine.run node

/-- The bindings in declaration order of their types. -/
def toList (r : Registry) : List Binding := DataType.all.map r.binding

/-- Every data type bound to its own routine. -/
def standardBindings : List Binding := DataType.all.map fun t ↦ ⟨t, ⟨t⟩⟩

/-- The registry of the standard bindings. -/
def standard : Registry where
  bindings := standardBindings
  total t := by rcases t with k | k <;> cases k <;> rfl

end Registry

namespace DataType

/-- The value that a node has by this type. -/
def convert (t : DataType) (node : Node) : Except Mismatch TypedValue :=
  Registry.standard.convert t node

end DataType

/-- Why a JSON value is not a value of a data type. -/
inductive ValueError where
  | unsupported (e : Unsupported)
  | mismatch (e : Mismatch)
deriving DecidableEq, Repr

namespace ValueError

/-- The wording of the error. -/
def message : ValueError → String
  | .unsupported e => e.message
  | .mismatch e => e.message

end ValueError

end KeywordValues
