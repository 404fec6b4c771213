import KeywordValues.Proofs.Loading

/-!
# Loading that ends at the first error

A schema is refused exactly if one of its members fails, and then with the error of the member whose
name stands first in the order of bytes. Otherwise what is loaded is determined by the outcomes of
the members: every member is either found under its name or listed among the names that are skipped.
-/

namespace KeywordValues

/-- A loaded schema in which each member of an object is what its outcome says. -/
structure LoadedSchema.Reflects (l : LoadedSchema) (c : Catalog) (strict : Bool)
    (fields : NameMap Json) : Prop where
  none_fails : ∀ m ∈ fields.entries, ∀ e, c.outcome strict m ≠ .failed e
  get?_iff : ∀ name v, l.get? name = some v ↔ ∃ j, (name, j) ∈ fields.entries ∧
    c.contains name = true ∧ c.outcome strict (name, j) = .typed v
  typeOf : ∀ name v, l.get? name = some v → c.typeOf name = .ok v.dataType
  mem_toList_iff : ∀ name v, (name, v) ∈ l.toList ↔ l.get? name = some v
  toList_ascending : l.toList.Pairwise fun a b ↦ Text.Precedes a.1 b.1
  mem_skipped_iff : ∀ name, name ∈ l.skipped ↔
    (∃ j, (name, j) ∈ fields.entries) ∧ c.contains name = false
  skipped_ascending : l.skipped.Pairwise Text.Precedes
  size_add : l.size + l.skipped.length = fields.size
  not_mem_skipped : ∀ name v, l.get? name = some v → name ∉ l.skipped

namespace Catalog

/-- The error of the failing member before which no other stands in the order of bytes. -/
def LeastFailure (c : Catalog) (strict : Bool) (fields : NameMap Json) (e : MemberError) : Prop :=
  ∃ m ∈ fields.entries, c.outcome strict m = .failed e ∧
    ∀ n ∈ fields.entries, ∀ e', c.outcome strict n = .failed e' → ¬ Text.Precedes n.1 m.1

variable {c : Catalog} {strict : Bool} {fields : NameMap Json} {l : LoadedSchema}

theorem contains_of_outcome_eq_typed {m : String × Json} {v : TypedValue}
    (h : c.outcome strict m = .typed v) : c.contains m.1 = true :=
  contains_iff_exists.2 ⟨_, typeOf_eq_ok_iff.1 (typeOf_of_outcome_eq_typed h)⟩

theorem failures_eq_nil_iff :
    c.failures strict fields.entries = [] ↔
      ∀ m ∈ fields.entries, ∀ e, c.outcome strict m ≠ .failed e := by
  rw [failures, List.map_eq_nil_iff, List.eq_nil_iff_forall_not_mem]
  constructor
  · intro h m hm e he
    exact h (m.1, e) (mem_failing_iff.2 ⟨m.2, hm, he⟩)
  · rintro h ⟨name, e⟩ hf
    obtain ⟨j, hm, he⟩ := mem_failing_iff.1 hf
    exact h (name, j) hm e he

/-- The first error is that of the least failing member. -/
theorem leastFailure_iff {e : MemberError} :
    c.LeastFailure strict fields e ↔ (c.failures strict fields.entries).head? = some e := by
  have hp : (c.failing strict fields.entries).Pairwise (·.1 < ·.1) :=
    pairwise_labelled fields.ascending
  rw [failures, List.head?_map]
  constructor
  · rintro ⟨m, hm, he, hleast⟩
    have hmem : (m.1, e) ∈ c.failing strict fields.entries := mem_failing_iff.2 ⟨m.2, hm, he⟩
    cases hf : c.failing strict fields.entries with
    | nil =>
        rw [hf] at hmem
        cases hmem
    | cons d ds =>
        rw [hf] at hp hmem
        rcases List.mem_cons.1 hmem with rfl | hd
        · rfl
        · have hd' : d ∈ c.failing strict fields.entries := hf ▸ List.mem_cons_self ..
          obtain ⟨j, hj, hde⟩ := mem_failing_iff.1 hd'
          exact absurd (Text.precedes_iff.2 ((List.pairwise_cons.1 hp).1 _ hd))
            (hleast (d.1, j) hj d.2 hde)
  · intro h
    cases hf : c.failing strict fields.entries with
    | nil =>
        rw [hf] at h
        cases h
    | cons d ds =>
        rw [hf] at hp h
        cases h
        have hd : d ∈ c.failing strict fields.entries := hf ▸ List.mem_cons_self ..
        obtain ⟨j, hj, hde⟩ := mem_failing_iff.1 hd
        refine ⟨(d.1, j), hj, hde, fun n hn e' he' hlt ↦ ?_⟩
        have hn' : (n.1, e') ∈ d :: ds := hf ▸ mem_failing_iff.2 ⟨n.2, hn, he'⟩
        have hlt := Text.precedes_iff.1 hlt
        rcases List.mem_cons.1 hn' with rfl | hn'
        · exact String.lt_irrefl _ hlt
        · exact String.lt_asymm hlt ((List.pairwise_cons.1 hp).1 _ hn')

/-- Where a member outside the catalog does not fail, such members are skipped. -/
theorem strict_eq_false {m : String × Json} (h : ∀ e, c.outcome strict m ≠ .failed e)
    (hc : c.contains m.1 = false) : strict = false := by
  cases strict with
  | false => rfl
  | true => exact absurd (outcome_of_get?_eq_none (get?_eq_none_iff.2 hc)) (h _)

/-- What is kept of members of which none fails is what their outcomes say. -/
theorem reflects_loaded (h : c.failures strict fields.entries = []) :
    (c.loaded strict fields).Reflects c strict fields := by
  have hnone := failures_eq_nil_iff.1 h
  have hmem (name : String) (v : TypedValue) :
      (name, v) ∈ (c.loaded strict fields).toList ↔ (c.loaded strict fields).get? name = some v :=
    NameMap.get?_eq_some_iff.symm
  have hget (name : String) (v : TypedValue) :
      (c.loaded strict fields).get? name = some v ↔
        ∃ j, (name, j) ∈ fields.entries ∧ c.outcome strict (name, j) = .typed v :=
    (hmem name v).symm.trans mem_typed_iff
  have hskipped (name : String) :
      name ∈ (c.loaded strict fields).skipped ↔
        (∃ j, (name, j) ∈ fields.entries) ∧ c.contains name = false := by
    refine mem_skipped_iff.trans ⟨fun ⟨hm, hc, _⟩ ↦ ⟨hm, hc⟩, fun ⟨hm, hc⟩ ↦ ⟨hm, hc, ?_⟩⟩
    obtain ⟨j, hm⟩ := hm
    exact strict_eq_false (hnone _ hm) hc
  refine ⟨hnone, fun name v ↦ ?_, fun name v hv ↦ ?_, hmem, ?_, hskipped, ?_, ?_,
    fun name v hv ↦ ?_⟩
  · rw [hget]
    exact ⟨fun ⟨j, hm, hj⟩ ↦ ⟨j, hm, contains_of_outcome_eq_typed hj, hj⟩,
      fun ⟨j, hm, _, hj⟩ ↦ ⟨j, hm, hj⟩⟩
  · obtain ⟨j, _, hj⟩ := (hget name v).1 hv
    exact typeOf_of_outcome_eq_typed hj
  · exact NameMap.pairwise_precedes_iff.2 (c.loaded strict fields).values.ascending
  · exact NameMap.pairwise_precedes_iff.2 (pairwise_skipped fields.ascending)
  · have hlen := length_typed_add c strict fields.entries
    have hf : c.failing strict fields.entries = [] := List.map_eq_nil_iff.1 h
    rw [hf, List.length_nil, Nat.add_zero] at hlen
    exact hlen
  · obtain ⟨j, _, hj⟩ := (hget name v).1 hv
    rw [hskipped, contains_of_outcome_eq_typed hj]
    simp

/-- The outcomes of the members determine what is loaded. -/
theorem eq_loaded_of_reflects (h : l.Reflects c strict fields) : l = c.loaded strict fields := by
  have hl := reflects_loaded (failures_eq_nil_iff.2 h.none_fails)
  have hvalues : l.values = (c.loaded strict fields).values :=
    NameMap.ext_get? fun name ↦ Option.ext fun v ↦
      (h.get?_iff name v).trans (hl.get?_iff name v).symm
  have hskipped : l.skipped = (c.loaded strict fields).skipped :=
    NameMap.eq_of_mem_iff (NameMap.pairwise_precedes_iff.1 h.skipped_ascending)
      (NameMap.pairwise_precedes_iff.1 hl.skipped_ascending)
      fun name ↦ (h.mem_skipped_iff name).trans (hl.mem_skipped_iff name).symm
  cases l
  cases hvalues
  cases hskipped
  rfl

/-- Loading that ends at the first error: what is not an object is refused as such, an object is
refused exactly if a member fails, with the error of the least failing member, and otherwise what is
loaded is what the outcomes of its members say. -/
theorem loadJson_failFast (c : Catalog) (strict : Bool) (max : Nat) (schema : Json) :
    let r := (c.loadJson ⟨strict, false, max⟩ schema).result
    match schema.fields? with
    | none => r = .error .notAnObject
    | some fields =>
        ((∃ e, r = .error e) ↔ ∃ m ∈ fields.entries, ∃ e, c.outcome strict m = .failed e) ∧
        (∀ e, r = .error e ↔ ∃ e', e = .member e' ∧ c.LeastFailure strict fields e') ∧
        (∀ l, r = .ok l ↔ l.Reflects c strict fields) := by
  intro r
  cases hs : schema.fields? with
  | none => simp only [r, loadJson, hs]
  | some fields =>
      have hr : r = (c.loadFields ⟨strict, false, max⟩ fields).result := by
        simp only [r, loadJson, hs]
      simp only [hr, result_failFast, leastFailure_iff]
      cases hf : c.failures strict fields.entries with
      | nil =>
          refine ⟨⟨?_, ?_⟩, fun e ↦ ⟨?_, ?_⟩, fun l ↦ ⟨?_, fun h ↦ ?_⟩⟩
          · rintro ⟨e, he⟩
            cases he
          · rintro ⟨m, hm, e, he⟩
            exact absurd he (failures_eq_nil_iff.1 hf m hm e)
          · rintro ⟨⟩
          · rintro ⟨e', _, he'⟩
            cases he'
          · rintro ⟨⟩
            exact reflects_loaded hf
          · rw [eq_loaded_of_reflects h]
      | cons e es =>
          obtain ⟨m, hm, he, _⟩ := leastFailure_iff.2 (hf ▸ List.head?_cons)
          refine ⟨⟨fun _ ↦ ⟨m, hm, e, he⟩, fun _ ↦ ⟨_, rfl⟩⟩, fun x ↦ ⟨?_, ?_⟩,
            fun l ↦ ⟨?_, fun h ↦ ?_⟩⟩
          · rintro ⟨⟩
            exact ⟨e, rfl, rfl⟩
          · rintro ⟨_, rfl, he'⟩
            cases he'
            rfl
          · rintro ⟨⟩
          · exact absurd he (h.none_fails m hm e)

end Catalog

end KeywordValues
