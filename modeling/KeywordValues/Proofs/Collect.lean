import KeywordValues.Proofs.FailFast

/-!
# Loading that collects errors

The errors that are reported are the first of all errors, in the order of the members. Whether a
schema is accepted is read off the errors that are kept, so that both ways of loading accept the
same schemas as long as one error may be kept. Where none may be kept, every object is accepted, and
its failing members are lost.
-/

namespace KeywordValues.Catalog

variable {c : Catalog} {strict : Bool} {schema : Json} {fields : NameMap Json}

/-! ## Objects -/

theorem result_loadJson {o : LoadOptions} (h : schema.fields? = some fields) :
    (c.loadJson o schema).result = (c.loadFields o fields).result := by
  rw [loadJson, h]

/-- Both ways of loading accept an object of which no member fails. -/
theorem result_of_failures_eq_nil {o : LoadOptions}
    (h : c.failures o.strict fields.entries = []) :
    (c.loadFields o fields).result = .ok (c.loaded o.strict fields) := by
  cases hc : o.collect with
  | false => rw [result_failFast hc, h]
  | true => rw [result_collect hc, h, List.take_nil]

/-- An object with a failing member is refused if one error may be kept. -/
theorem result_collect_of_failures_eq_cons {k : Nat} {e : MemberError} {es : List MemberError}
    (hk : 1 ≤ k) (h : c.failures strict fields.entries = e :: es) :
    (c.loadFields ⟨strict, true, k⟩ fields).result = .error (.rejected ((e :: es).take k)) := by
  obtain ⟨k, rfl⟩ := Nat.exists_eq_succ_of_ne_zero (Nat.one_le_iff_ne_zero.1 hk)
  rw [result_collect rfl, h, List.take_succ_cons]

theorem result_failFast_of_failures_eq_cons {n : Nat} {e : MemberError} {es : List MemberError}
    (h : c.failures strict fields.entries = e :: es) :
    (c.loadFields ⟨strict, false, n⟩ fields).result = .error (.member e) := by
  rw [result_failFast rfl, h]

/-- As long as one error may be kept, exactly the objects of which no member fails are accepted. -/
theorem loadJson_eq_ok_iff {o : LoadOptions} {l : LoadedSchema}
    (ho : o.collect = false ∨ 1 ≤ o.maxReported) : (c.loadJson o schema).result = .ok l ↔
      ∃ fields, schema.fields? = some fields ∧
        (∀ m ∈ fields.entries, ∀ e, c.outcome o.strict m ≠ .failed e) ∧
        l = c.loaded o.strict fields := by
  simp only [← failures_eq_nil_iff]
  constructor
  · intro h
    cases hs : schema.fields? with
    | none =>
        rw [loadJson, hs] at h
        cases h
    | some fields =>
        rw [result_loadJson hs] at h
        refine ⟨fields, rfl, ?_, eq_loaded_of_result_eq_ok h⟩
        cases hf : c.failures o.strict fields.entries with
        | nil => rfl
        | cons e es =>
            -- the first error ends the loading, or is kept
            obtain ⟨strict, collect, max⟩ := o
            cases collect with
            | false => cases (result_failFast_of_failures_eq_cons hf).symm.trans h
            | true =>
                have hmax : 1 ≤ max := by simpa using ho
                cases (result_collect_of_failures_eq_cons hmax hf).symm.trans h
  · rintro ⟨fields, hs, hf, rfl⟩
    rw [result_loadJson hs]
    exact result_of_failures_eq_nil hf

/-! ## What is reported -/

/-- The reported errors are the first `k` of the errors of all failing members, taken in the order
of the bytes of their names. -/
theorem loadJson_collect (c : Catalog) (strict : Bool) {k : Nat} (hk : 1 ≤ k) (n : Nat)
    (hs : schema.fields? = some fields) :
    let failing := c.failing strict fields.entries
    let errors := failing.map (·.2)
    let collected := (c.loadJson ⟨strict, true, k⟩ schema).result
    let first := (c.loadJson ⟨strict, false, n⟩ schema).result
    failing.Pairwise (fun a b ↦ Text.Precedes a.1 b.1) ∧
      (∀ name e, (name, e) ∈ failing ↔
        ∃ j, (name, j) ∈ fields.entries ∧ c.outcome strict (name, j) = .failed e) ∧
      (∀ es, collected = .error (.rejected es) ↔ errors ≠ [] ∧ es = errors.take k) ∧
      (∀ e, (errors.take k).head? = some e ↔ first = .error (.member e)) ∧
      (errors = [] → ∃ l, collected = .ok l ∧ first = .ok l) := by
  intro failing errors collected first
  refine ⟨NameMap.pairwise_precedes_iff.2 (pairwise_labelled fields.ascending),
    fun name e ↦ mem_failing_iff, ?_⟩
  simp only [collected, first, result_loadJson hs]
  cases he : errors with
  | nil =>
      have hc := result_of_failures_eq_nil (o := ⟨strict, true, k⟩) he
      have hf := result_of_failures_eq_nil (o := ⟨strict, false, n⟩) he
      refine ⟨fun es ↦ ?_, fun e ↦ ?_, fun _ ↦ ⟨_, hc, hf⟩⟩
      · simp [hc]
      · simp [hf]
  | cons e es =>
      have hc := result_collect_of_failures_eq_cons hk he
      have hf := result_failFast_of_failures_eq_cons (n := n) he
      obtain ⟨k, rfl⟩ := Nat.exists_eq_succ_of_ne_zero (Nat.one_le_iff_ne_zero.1 hk)
      refine ⟨fun es' ↦ ?_, fun e' ↦ ?_, fun h ↦ nomatch h⟩
      · simp [hc, eq_comm]
      · simp [hf]

/-- The two members of a schema fail, one for its name and one for its value, and one error may be
kept. The member that is written first comes later in the order of the names. -/
theorem loadJson_collect_two_failures :
    let c := empty.insert ⟨"title", .scalar .string, rfl⟩
    let unknown := MemberError.unknownKeyword "kind"
    let value := MemberError.value "title" (.mismatch ⟨.scalar .string, .scalar .boolean, none⟩)
    let schema := Json.object [("title", .bool true), ("kind", .null)]
    let fields := NameMap.ofList [("title", Json.bool true), ("kind", .null)]
    1 ≤ 1 ∧ schema.fields? = some fields ∧
      (c.failing true fields.entries).map (·.2) = [unknown, value] ∧
      (c.loadJson ⟨true, true, 1⟩ schema).result = .error (.rejected [unknown]) ∧
      (c.loadJson ⟨true, false, 1⟩ schema).result = .error (.member unknown) := by
  intro c unknown value schema fields
  have ⟨_, _, hcollected, hfirst, _⟩ :=
    loadJson_collect c true (Nat.le_refl 1) 1 (show schema.fields? = some fields from rfl)
  exact ⟨Nat.le_refl 1, rfl, rfl, (hcollected _).2 ⟨nofun, rfl⟩, (hfirst _).1 rfl⟩

/-! ## What is accepted -/

/-- Where no error may be kept, no object is refused. -/
theorem result_collect_zero :
    (c.loadFields ⟨strict, true, 0⟩ fields).result = .ok (c.loaded strict fields) := by
  rw [result_collect rfl, List.take_zero]

/-- A member that fails is lost if the object is accepted. -/
theorem not_mem_loaded {m : String × Json} {e : MemberError} (hm : m ∈ fields.entries)
    (he : c.outcome strict m = .failed e) :
    (c.loaded strict fields).get? m.1 = none ∧ m.1 ∉ (c.loaded strict fields).skipped := by
  constructor
  · refine Option.eq_none_iff_forall_ne_some.2 fun v hv ↦ ?_
    obtain ⟨j, hj, ht⟩ := mem_typed_iff.1 (NameMap.get?_eq_some_iff.1 hv)
    have hjm : some j = some m.2 :=
      (NameMap.get?_eq_some_iff.2 hj).symm.trans (NameMap.get?_eq_some_iff.2 hm)
    cases hjm
    rw [ht] at he
    cases he
  · intro hs
    obtain ⟨_, hs⟩ := mem_skipped_iff.1 hs
    rw [outcome_eq_skipped_iff.2 hs] at he
    cases he

/-- Whether errors are collected makes no difference to what is accepted, exactly if one error may
be kept or nothing fails. Where no error may be kept, an object is accepted whatever fails in it,
and a failing member is neither found nor listed as skipped. -/
theorem loadJson_modes_agree_iff (c : Catalog) (strict : Bool) (max : Nat) (schema : Json) :
    let collected := (c.loadJson ⟨strict, true, max⟩ schema).result
    let first := (c.loadJson ⟨strict, false, max⟩ schema).result
    ((∀ l, collected = .ok l ↔ first = .ok l) ↔
      0 < max ∨ ∀ fields, schema.fields? = some fields →
        ∀ m ∈ fields.entries, ∀ e, c.outcome strict m ≠ .failed e) ∧
    (∀ fields, max = 0 → schema.fields? = some fields → ∃ l, collected = .ok l ∧
      ∀ m ∈ fields.entries, ∀ e, c.outcome strict m = .failed e →
        l.get? m.1 = none ∧ m.1 ∉ l.skipped) := by
  intro collected first
  refine ⟨⟨fun h ↦ ?_, fun h l ↦ ?_⟩, ?_⟩
  · refine (Nat.eq_zero_or_pos max).symm.imp_right fun hmax fields hs ↦ failures_eq_nil_iff.1 ?_
    subst hmax
    have hcollected : collected = .ok (c.loaded strict fields) :=
      (result_loadJson hs).trans result_collect_zero
    have hfirst : (c.loadFields ⟨strict, false, 0⟩ fields).result = .ok (c.loaded strict fields) :=
      (result_loadJson hs).symm.trans ((h _).1 hcollected)
    cases hf : c.failures strict fields.entries with
    | nil => rfl
    | cons e es =>
        rw [result_failFast_of_failures_eq_cons hf] at hfirst
        cases hfirst
  · cases hs : schema.fields? with
    | none => simp only [collected, first, loadJson, hs]
    | some fields =>
        simp only [collected, first, result_loadJson hs]
        cases hf : c.failures strict fields.entries with
        | nil =>
            rw [result_of_failures_eq_nil (o := ⟨strict, true, max⟩) hf,
              result_of_failures_eq_nil (o := ⟨strict, false, max⟩) hf]
        | cons e es =>
            have hmax : 0 < max := by
              refine h.resolve_right fun hnone ↦ ?_
              rw [failures_eq_nil_iff.2 (hnone fields hs)] at hf
              cases hf
            rw [result_collect_of_failures_eq_cons hmax hf, result_failFast_of_failures_eq_cons hf]
            constructor <;> rintro ⟨⟩
  · rintro fields rfl hs
    exact ⟨_, (result_loadJson hs).trans result_collect_zero, fun m hm e he ↦ not_mem_loaded hm he⟩

/-- A schema whose only member fails is refused if its errors are not collected, and accepted
without that member if they are and none may be kept. -/
theorem loadJson_modes_differ_at_zero :
    let c := empty.insert ⟨"title", .scalar .string, rfl⟩
    let schema := Json.object [("title", .bool true)]
    (c.loadJson ⟨false, false, 0⟩ schema).result =
        .error (.member (.value "title" (.mismatch ⟨.scalar .string, .scalar .boolean, none⟩))) ∧
      (c.loadJson ⟨false, true, 0⟩ schema).result = .ok ⟨.empty, []⟩ := by
  exact ⟨rfl, rfl⟩

end KeywordValues.Catalog
