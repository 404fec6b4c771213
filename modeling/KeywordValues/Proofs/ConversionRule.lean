import KeywordValues.Proofs.Conversion
import KeywordValues.Proofs.Elementwise

/-!
# The rule of conversion

A scalar gives a value of its own kind, and an integer gives a number besides. A scalar type takes
the nodes that give a value of its kind, and an array type takes a sequence exactly if the scalar
type takes every item. A single scalar counts as the sequence of that one item.
-/

namespace KeywordValues

namespace Scalar

variable {s : Scalar} {k : ScalarKind} {x : k.Carrier} {found : Shape}

end Scalar

/-! ## Accessors -/

namespace TypedValue

end TypedValue

namespace DataType

variable {k : ScalarKind} {node : Node} {s : Scalar} {items : List Scalar} {v : TypedValue}
  {e : Mismatch}

/-! ## Scalar types -/

end DataType

end KeywordValues
