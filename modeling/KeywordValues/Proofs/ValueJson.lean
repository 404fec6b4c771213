import KeywordValues.Proofs.Conversion
import KeywordValues.Proofs.Elementwise

/-!
# Typed values and their JSON forms

The JSON form of a value whose doubles are finite is taken back as the node that the value is, and
the type of the value makes the value of that node again.
-/

namespace KeywordValues

theorem Decimal.Word.toInt64?_eq_some_iff {w : Word} {n : Int64} :
    w.toInt64? = some n ↔ n.toInt = w.val := by
  rw [toInt64?, Option.ite_none_right_eq_some, Option.some.injEq]
  constructor
  · rintro ⟨hlt, rfl⟩
    exact Int64.toInt_ofInt_of_le w.lower hlt
  · intro h
    rw [← h, Int64.ofInt_toInt]
    exact ⟨n.toInt_lt, rfl⟩

theorem Decimal.Word.toInt64?_ofInt64 (i : Int64) : (ofInt64 i).toInt64? = some i :=
  toInt64?_eq_some_iff.2 rfl

/-! ## Nodes -/

/-- The scalars of a node in order. -/
def Node.scalars : Node → List Scalar
  | .scalar s => [s]
  | .sequence items => items

/-- Every double in a node is finite. -/
def Node.Finite (node : Node) : Prop := ∀ x, .number x ∈ node.scalars → x.isFinite = true

theorem Scalar.ofJson_toJson {s : Scalar} (h : ∀ x, .number x = s → x.isFinite = true) :
    ofJson s.toJson = .ok s := by
  cases s with
  | string t => rfl
  | integer i => simp [toJson, Json.ofInt64, ofJson, Decimal.Word.toInt64?_ofInt64]
  | number x => simp [toJson, Json.ofDouble, ofJson, h x rfl]
  | boolean b => rfl

/-- A JSON value that is a scalar is a node of that scalar. -/
theorem Node.ofJson_of_scalar {j : Json} {s : Scalar} (h : Scalar.ofJson j = .ok s) :
    ofJson j = .ok (.scalar s) := by
  cases j with
  | array items => cases h
  | _ => simp only [ofJson, h]

theorem Node.ofJson_toJson {node : Node} (h : node.Finite) : ofJson node.toJson = .ok node := by
  cases node with
  | scalar s => exact ofJson_of_scalar (Scalar.ofJson_toJson fun x hx ↦ h x (hx ▸ .head _))
  | sequence items =>
      have hitems : elementwise Scalar.ofJson (items.map Scalar.toJson) = .ok items := by
        rw [elementwise_eq_ok_iff, List.forall₂_map_left_iff, List.forall₂_same]
        intro s hs
        exact Scalar.ofJson_toJson fun x hx ↦ h x (hx ▸ hs)
      simp only [toJson, ofJson, hitems]

/-! ## Typed values -/

/-- Every double that a value holds is finite. -/
def TypedValue.Finite (v : TypedValue) : Prop := v.toNode.Finite

theorem Scalar.as_ofCarrier (k : ScalarKind) (x : k.Carrier) : (ofCarrier k x).as k = .ok x := by
  rw [as, as?_ofCarrier]

/-- The type of a value makes the value of its own payload. -/
theorem DataType.convert_toNode (v : TypedValue) : v.dataType.convert v.toNode = .ok v := by
  rw [convert_eq_run]
  cases v with
  | scalar k x =>
      simp only [TypedValue.dataType, TypedValue.toNode, Routine.run, Scalar.as_ofCarrier]
  | array k xs =>
      have hitems : elementwise (Scalar.as k) (xs.map (.ofCarrier k)) = .ok xs := by
        rw [elementwise_eq_ok_iff, List.forall₂_map_left_iff, List.forall₂_same]
        exact fun x _ ↦ Scalar.as_ofCarrier k x
      simp only [TypedValue.dataType, TypedValue.toNode, Routine.run, hitems]

theorem TypedValue.ofJson_toJson {v : TypedValue} (h : v.Finite) :
    Node.ofJson v.toJson = .ok v.toNode :=
  Node.ofJson_toJson h

end KeywordValues
