import KeywordValues.Proofs.ValueJson

/-!
# What JSON values cannot hold

JSON has no number for a double that is not finite, and null is no scalar. So a typed value is taken
back from its JSON form exactly if its doubles are finite, and otherwise the first of those that are
not is reported. Nothing else is lost.
-/

namespace KeywordValues

/-! ## Scalars -/

namespace Scalar

variable {s : Scalar} {cause : NoScalar}

theorem ofJson_toJson_eq_error_iff :
    ofJson s.toJson = .error cause ↔ cause = .null ∧ ∃ x, s = .number x ∧ x.isFinite = false := by
  by_cases h : ∃ x, s = .number x ∧ x.isFinite = false
  · obtain ⟨x, rfl, hx⟩ := h
    have hnull : ofJson (toJson (.number x)) = .error .null := by
      simp [toJson, Json.ofDouble, hx, ofJson]
    rw [hnull, Except.error.injEq]
    constructor
    · intro h
      exact ⟨h.symm, x, rfl, hx⟩
    · rintro ⟨rfl, -⟩
      rfl
  · have hok : ofJson s.toJson = .ok s := by
      apply ofJson_toJson
      rintro x rfl
      exact Bool.of_not_eq_false fun hx ↦ h ⟨x, rfl, hx⟩
    rw [hok]
    constructor
    · intro herror
      cases herror
    · rintro ⟨-, hx⟩
      exact absurd hx h

theorem exists_ofJson_toJson_eq_ok_iff :
    (∃ t, ofJson s.toJson = .ok t) ↔ ∀ x, s = .number x → x.isFinite = true := by
  constructor
  · rintro ⟨t, ht⟩ x rfl
    apply Bool.of_not_eq_false
    intro hx
    cases ht.symm.trans (ofJson_toJson_eq_error_iff.2 ⟨rfl, x, rfl, hx⟩)
  · intro h
    exact ⟨s, ofJson_toJson fun x hx ↦ h x hx.symm⟩

/-- The JSON form of a scalar is no array. -/
theorem toJson_ne_array (s : Scalar) (js : List Json) : s.toJson ≠ .array js := by
  intro h
  cases s with
  | number x =>
      rw [toJson, Json.ofDouble] at h
      split at h <;> cases h
  | _ => cases h

end Scalar

/-! ## Nodes -/

namespace Node

variable {e : Unsupported} {s : Scalar} {items : List Scalar}

theorem ofJson_of_ne_array {j : Json} (h : ∀ js, j ≠ .array js) : ofJson j =
    match Scalar.ofJson j with
    | .ok s => .ok (.scalar s)
    | .error cause => .error ⟨cause, none⟩ := by
  cases j with
  | array js => exact absurd rfl (h js)
  | _ => rfl

theorem exists_ofJson_array_eq_ok_iff {js : List Json} :
    (∃ n, ofJson (.array js) = .ok n) ↔ ∀ j ∈ js, ∃ s, Scalar.ofJson j = .ok s := by
  rw [← exists_elementwise_eq_ok_iff]
  simp only [ofJson]
  cases elementwise Scalar.ofJson js with
  | ok ss => simp
  | error p => simp

/-- Of the items of an array without a form the first is reported. -/
theorem ofJson_array_eq_error_iff {js : List Json} : ofJson (.array js) = .error e ↔
    ∃ cause i, FirstFailure Scalar.ofJson js i cause ∧ e = ⟨cause, some i⟩ := by
  simp only [← elementwise_eq_error_iff, ofJson]
  cases elementwise Scalar.ofJson js with
  | ok ss => simp
  | error p =>
      obtain ⟨cause, i⟩ := p
      simp [eq_comm]

theorem ofJson_toJson_scalar_eq_error_iff : ofJson (toJson (.scalar s)) = .error e ↔
    (∃ x, s = .number x ∧ x.isFinite = false) ∧ e = ⟨.null, none⟩ := by
  rw [toJson, ofJson_of_ne_array s.toJson_ne_array]
  cases h : Scalar.ofJson s.toJson with
  | ok t =>
      have ht := Scalar.exists_ofJson_toJson_eq_ok_iff.1 ⟨t, h⟩
      constructor
      · intro herror
        cases herror
      · rintro ⟨⟨x, hx, hfalse⟩, -⟩
        cases (ht x hx).symm.trans hfalse
  | error cause =>
      obtain ⟨rfl, hx⟩ := Scalar.ofJson_toJson_eq_error_iff.1 h
      rw [Except.error.injEq, eq_comm, and_iff_right hx]

theorem ofJson_toJson_sequence_eq_error_iff : ofJson (toJson (.sequence items)) = .error e ↔
    ∃ i, ∃ h : i < items.length, (∃ x, items[i] = .number x ∧ x.isFinite = false) ∧
      (∀ j (hj : j < i), ∀ x, items.get ⟨j, Nat.lt_trans hj h⟩ = .number x → x.isFinite = true) ∧
      e = ⟨.null, some i⟩ := by
  rw [toJson, ofJson_array_eq_error_iff]
  simp only [FirstFailure.map_iff]
  constructor
  · rintro ⟨cause, i, h, rfl⟩
    obtain ⟨rfl, hx⟩ := Scalar.ofJson_toJson_eq_error_iff.1 h.fails
    exact ⟨i, h.lt, hx, fun j hj ↦ Scalar.exists_ofJson_toJson_eq_ok_iff.1 (h.before j hj), rfl⟩
  · rintro ⟨i, hi, hx, hbefore, rfl⟩
    exact ⟨.null, i, ⟨hi, Scalar.ofJson_toJson_eq_error_iff.2 ⟨rfl, hx⟩,
      fun j hj ↦ Scalar.exists_ofJson_toJson_eq_ok_iff.2 (hbefore j hj)⟩, rfl⟩

/-- A node is taken back from its JSON form only if its doubles are finite. -/
theorem finite_of_ofJson_toJson_eq_ok {node n : Node} (h : ofJson node.toJson = .ok n) :
    node.Finite := by
  intro x hx
  apply Bool.of_not_eq_false
  intro hfalse
  cases node with
  | scalar s =>
      obtain rfl := List.mem_singleton.1 hx
      cases h.symm.trans (ofJson_toJson_scalar_eq_error_iff.2 ⟨⟨x, rfl, hfalse⟩, rfl⟩)
  | sequence items =>
      have hitems := exists_ofJson_array_eq_ok_iff.1 ⟨n, h⟩
      obtain ⟨t, ht⟩ := hitems _ (List.mem_map_of_mem hx)
      cases ht.symm.trans (Scalar.ofJson_toJson_eq_error_iff.2 ⟨rfl, x, rfl, hfalse⟩)

end Node

/-! ## Typed values -/

namespace TypedValue

variable {v : TypedValue} {e : Unsupported}

theorem ofJson_toJson_eq_error_iff : Node.ofJson v.toJson = .error e ↔
    (∃ x, v = .scalar .number x ∧ x.isFinite = false ∧ e = ⟨.null, none⟩) ∨
    ∃ (xs : List Float) (i : Nat) (h : i < xs.length), v = .array .number xs ∧
      xs[i].isFinite = false ∧ (∀ j (hj : j < i), xs[j].isFinite = true) ∧
      e = ⟨.null, some i⟩ := by
  cases v with
  | scalar k x =>
      have hnode : (scalar k x).toJson = Node.toJson (.scalar (.ofCarrier k x)) := rfl
      rw [hnode, Node.ofJson_toJson_scalar_eq_error_iff]
      cases k <;> simp [Scalar.ofCarrier]
  | array k xs =>
      have hnode : (array k xs).toJson = Node.toJson (.sequence (xs.map (.ofCarrier k))) := rfl
      rw [hnode, Node.ofJson_toJson_sequence_eq_error_iff]
      cases k <;> simp [Scalar.ofCarrier]

/-- A value comes back from its JSON form as it was, each double with all its bits, exactly if its
doubles are finite. Otherwise its form has no scalar where the first double that is not finite
was. -/
theorem convert_ofJson_toJson (v : TypedValue) :
    (v.Finite ↔ ∃ node, Node.ofJson v.toJson = .ok node ∧ v.dataType.convert node = .ok v) ∧
    (∀ e, Node.ofJson v.toJson = .error e ↔
      (∃ x, v = .scalar .number x ∧ x.isFinite = false ∧ e = ⟨.null, none⟩) ∨
      ∃ (xs : List Float) (i : Nat) (h : i < xs.length), v = .array .number xs ∧
        xs[i].isFinite = false ∧ (∀ j (hj : j < i), xs[j].isFinite = true) ∧
        e = ⟨.null, some i⟩) := by
  refine ⟨⟨fun h ↦ ?_, ?_⟩, fun e ↦ ofJson_toJson_eq_error_iff⟩
  · exact ⟨v.toNode, ofJson_toJson h, DataType.convert_toNode v⟩
  · rintro ⟨node, hnode, -⟩
    exact Node.finite_of_ofJson_toJson_eq_ok hnode

end TypedValue

end KeywordValues
