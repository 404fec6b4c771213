import KeywordValues.Proofs.Json.Reader
import KeywordValues.Proofs.ValueJson

/-!
# Values and their JSON texts

A node without doubles is read back from its compact JSON text. So a typed value without doubles is
made again from its text by its type, and no other value of this type has the same text.
-/

namespace KeywordValues

/-! ## Nodes -/

namespace Node

variable {node : Node}

/-- No scalar of a node is a double. -/
def Exact (node : Node) : Prop := ∀ s ∈ node.scalars, s.kind ≠ .number

theorem Exact.finite (h : node.Exact) : node.Finite := fun _ hx ↦ absurd rfl (h _ hx)

theorem exact_toJson_of_scalar {s : Scalar} (h : s.kind ≠ .number) (levels : Nat) :
    Json.Exact levels s.toJson := by
  cases s with
  | string t => exact .string t
  | integer i => exact .whole _
  | number x => exact absurd rfl h
  | boolean b => exact .bool b

theorem Exact.toJson (h : node.Exact) (levels : Nat) : Json.Exact (levels + 1) node.toJson := by
  cases node with
  | scalar s => exact exact_toJson_of_scalar (h s (List.mem_cons_self ..)) _
  | sequence items =>
      refine .array (List.forall_mem_map.2 fun s hs ↦ ?_)
      exact exact_toJson_of_scalar (h s hs) levels

/-- A node without doubles is read back from its text. -/
theorem read_print (h : node.Exact) : read node.toJson.print = .ok node := by
  rw [read, Json.read_print (h.toJson 126)]
  simp only [ofJson_toJson h.finite]
  rfl

end Node

/-! ## Typed values -/

namespace TypedValue

variable {v w : TypedValue}

/-- Every scalar of a value has the kind that the type of the value names. -/
theorem kind_of_mem_scalars {s : Scalar} (h : s ∈ v.toNode.scalars) :
    s.kind = v.dataType.scalarKind := by
  cases v with
  | scalar k x =>
      obtain rfl := List.mem_singleton.1 h
      exact Scalar.kind_ofCarrier k x
  | array k xs =>
      obtain ⟨x, -, rfl⟩ := List.mem_map.1 h
      exact Scalar.kind_ofCarrier k x

theorem read_print_toJson (h : v.dataType.scalarKind ≠ .number) :
    Node.read v.toJson.print = .ok v.toNode :=
  Node.read_print fun _ hs ↦ kind_of_mem_scalars hs ▸ h

/-- The text of a value without doubles is read as a node of which the type of the value makes the
value again, and values of this type with the same text are equal. -/
theorem convert_read_print (v : TypedValue) (h : v.dataType.scalarKind ≠ .number) :
    (∃ node, Node.read v.toJson.print = .ok node ∧ v.dataType.convert node = .ok v) ∧
      ∀ w : TypedValue, w.dataType = v.dataType → w.toJson.print = v.toJson.print → w = v := by
  have hread : Node.read v.toJson.print = .ok v.toNode := read_print_toJson h
  refine ⟨⟨v.toNode, hread, DataType.convert_toNode v⟩, fun w ht hw ↦ ?_⟩
  have hnode : w.toNode = v.toNode := by
    have hw' : Node.read w.toJson.print = .ok w.toNode := read_print_toJson (ht ▸ h)
    rw [hw, hread] at hw'
    exact (Except.ok.inj hw').symm
  -- one type makes one value of one node
  have hvalue : (.ok w : Except Mismatch TypedValue) = .ok v := by
    rw [← DataType.convert_toNode w, ← DataType.convert_toNode v, ht, hnode]
  exact Except.ok.inj hvalue

/-- Texts with a quote, a backslash, a line feed and another control character in them are read back
from the text in which these are escaped. -/
theorem convert_read_print_escapes :
    let v := TypedValue.array .string ["\"\\", "", "\n\x01é"]
    v.toJson.print = "[\"\\\"\\\\\",\"\",\"\\n\\u0001é\"]" ∧
      ∃ node, Node.read v.toJson.print = .ok node ∧ v.dataType.convert node = .ok v := by
  intro v
  have hprint : v.toJson.print = "[\"\\\"\\\\\",\"\",\"\\n\\u0001é\"]" := by decide
  exact ⟨hprint, (convert_read_print v (by decide)).1⟩

end TypedValue

end KeywordValues
