import KeywordValues.Proofs.Collect
import KeywordValues.Proofs.ConversionRule
import KeywordValues.Proofs.JsonRoundTrip

/-!
# The JSON values that are nodes

A JSON value has the form of a node exactly if it is flat: a scalar, or an array of scalars. Null
and the unsigned integers beyond the signed ones are no scalars. All items of an array are given a
form before the kind of the first is looked at. So an item without a form is what is reported, even
where an item in front of it has a form of the wrong kind, and a mismatch is only found among items
that are all scalars.
-/

namespace KeywordValues

/-! ## Scalars -/

namespace Json

/-- The scalar that a JSON value is. A whole number is the signed word of its value. -/
inductive IsScalar : Json → Scalar → Prop
  | string (s : String) : IsScalar (.string s) (.string s)
  | bool (b : Bool) : IsScalar (.bool b) (.boolean b)
  | double (x : Float) : IsScalar (.double x) (.number x)
  | whole (w : Decimal.Word) (i : Int64) (h : i.toInt = w.val) : IsScalar (.whole w) (.integer i)

end Json

namespace Scalar

variable {j : Json} {s : Scalar} {cause : NoScalar}

theorem ofJson_eq_ok_iff : ofJson j = .ok s ↔ j.IsScalar s := by
  constructor
  · intro h
    cases j with
    | string t =>
        cases h
        exact .string t
    | bool b =>
        cases h
        exact .bool b
    | double x =>
        cases h
        exact .double x
    | whole w =>
        rw [ofJson] at h
        split at h <;> cases h
        rename_i i hi
        exact .whole w i (Decimal.Word.toInt64?_eq_some_iff.1 hi)
    | _ => cases h
  · intro h
    cases h with
    | whole w i h => simp only [ofJson, Decimal.Word.toInt64?_eq_some_iff.2 h]
    | _ => rfl

end Scalar

/-! ## Nodes -/

namespace Json

/-- The node that a flat JSON value is. The items of an array are scalars one by one, in order. -/
inductive Flat : Json → Node → Prop
  | scalar {j : Json} {s : Scalar} (h : j.IsScalar s) : Flat j (.scalar s)
  | array {js : List Json} {ss : List Scalar} (h : List.Forall₂ IsScalar js ss) :
      Flat (.array js) (.sequence ss)

variable {js : List Json} {i : Nat} {cause : NoScalar}

theorem not_isScalar_array (items : List Json) (s : Scalar) : ¬ IsScalar (.array items) s := nofun

end Json

namespace Node

variable {j : Json} {js : List Json} {node : Node} {e : Unsupported}

theorem ofJson_array_eq_ok_iff : ofJson (.array js) = .ok node ↔
    ∃ ss, List.Forall₂ Json.IsScalar js ss ∧ node = .sequence ss := by
  have hitems (ss : List Scalar) :
      elementwise Scalar.ofJson js = .ok ss ↔ List.Forall₂ Json.IsScalar js ss := by
    simp only [elementwise_eq_ok_iff, Scalar.ofJson_eq_ok_iff]
  simp only [← hitems, ofJson]
  cases elementwise Scalar.ofJson js <;> simp [eq_comm]

theorem ofJson_eq_ok_iff_of_ne_array (h : ∀ js, j ≠ .array js) : ofJson j = .ok node ↔
    ∃ s, j.IsScalar s ∧ node = .scalar s := by
  simp only [← Scalar.ofJson_eq_ok_iff, ofJson_of_ne_array h]
  cases Scalar.ofJson j <;> simp [eq_comm]

theorem ofJson_eq_ok_iff : ofJson j = .ok node ↔ j.Flat node := by
  by_cases hj : ∃ js, j = .array js
  · obtain ⟨js, rfl⟩ := hj
    rw [ofJson_array_eq_ok_iff]
    constructor
    · rintro ⟨ss, h, rfl⟩
      exact .array h
    · intro h
      cases h with
      | scalar h => exact absurd h (Json.not_isScalar_array js _)
      | array h => exact ⟨_, h, rfl⟩
  · have hne (js : List Json) : j ≠ .array js := fun h ↦ hj ⟨js, h⟩
    rw [ofJson_eq_ok_iff_of_ne_array hne]
    constructor
    · rintro ⟨s, h, rfl⟩
      exact .scalar h
    · intro h
      cases h with
      | scalar h => exact ⟨_, h, rfl⟩
      | array h => exact absurd rfl (hne _)

end Node

namespace DataType

variable {t : DataType} {j : Json} {k : ScalarKind} {js : List Json} {v : TypedValue}

end DataType

/-! ## Members of a schema -/

namespace Catalog

variable {c : Catalog} {strict : Bool} {name : String} {j : Json} {t : DataType}
  {cause : ValueError}

end Catalog

/-! ## Both together -/

namespace DataType

end DataType

end KeywordValues
