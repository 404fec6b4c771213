import KeywordValues.Proofs.Collect
import KeywordValues.Proofs.ValueJson
import KeywordValues.Proofs.Widening

/-!
# Loading what was loaded

The values of a loaded schema are JSON values again, and each name has the type of its value. So the
object of these values is a schema of the same catalog, of which no member fails and none is
skipped, and loading it gives the same values in every mode.
-/

namespace KeywordValues

/-- The object of the JSON forms of what is loaded. -/
def LoadedSchema.toJson (l : LoadedSchema) : Json :=
  .object (l.toList.map fun e ↦ (e.1, e.2.toJson))

namespace Catalog

variable {c : Catalog} {strict : Bool} {fields : NameMap Json}

/-- The names of a loaded schema have the types of their values. -/
theorem typeOf_of_mem_loaded {e : String × TypedValue}
    (h : e ∈ (c.loaded strict fields).toList) : c.typeOf e.1 = .ok e.2.dataType := by
  obtain ⟨j, -, hj⟩ := mem_typed_iff.1 h
  exact typeOf_of_outcome_eq_typed hj

/-- The JSON form of a value is given the same value again. -/
theorem outcome_toJson {name : String} {v : TypedValue} (ht : c.typeOf name = .ok v.dataType)
    (hv : v.Finite) : c.outcome strict (name, v.toJson) = .typed v := by
  obtain ⟨k, hk⟩ : ∃ k, c.get? name = some k := by
    unfold typeOf at ht
    split at ht
    · exact ⟨_, ‹_›⟩
    · cases ht
  have htype : k.dataType = v.dataType := by
    rw [typeOf, hk] at ht
    exact Except.ok.inj ht
  have hconvert : k.convert v.toNode = .ok v := by
    rw [Keyword.convert, htype, DataType.convert_toNode]
  rw [outcome_of_get?_eq_some hk, TypedValue.ofJson_toJson hv]
  simp only [hconvert]

/-- The JSON forms of values all get these values, and none of them fails or is skipped. -/
theorem sorted_toJson {es : List (String × TypedValue)}
    (h : ∀ e ∈ es, c.typeOf e.1 = .ok e.2.dataType ∧ e.2.Finite) :
    c.typed strict (es.map fun e ↦ (e.1, e.2.toJson)) = es ∧
      c.failing strict (es.map fun e ↦ (e.1, e.2.toJson)) = [] ∧
      c.skipped strict (es.map fun e ↦ (e.1, e.2.toJson)) = [] := by
  induction es with
  | nil => exact ⟨rfl, rfl, rfl⟩
  | cons e es ih =>
      obtain ⟨⟨ht, hv⟩, hes⟩ := List.forall_mem_cons.1 h
      obtain ⟨htyped, hfailing, hskipped⟩ := ih hes
      have hx : c.outcome strict (e.1, e.2.toJson) = .typed e.2 := outcome_toJson ht hv
      obtain ⟨ht', hf', hs'⟩ := typed_cons (es.map fun e ↦ (e.1, e.2.toJson)) hx
      rw [List.map_cons, ht', hf', hs', htyped]
      exact ⟨rfl, hfailing, hskipped⟩

/-- An object of values is loaded as these values in every mode. -/
theorem result_toJson {l : LoadedSchema}
    (h : ∀ e ∈ l.toList, c.typeOf e.1 = .ok e.2.dataType ∧ e.2.Finite) (o : LoadOptions) :
    (c.loadJson o l.toJson).result = .ok { l with skipped := [] } := by
  have hasc : (l.toList.map fun e ↦ (e.1, e.2.toJson)).Pairwise (·.1 < ·.1) :=
    l.values.ascending.map _ fun _ _ hab ↦ hab
  have hfields : l.toJson.fields? = some ⟨_, hasc⟩ := congrArg some (NameMap.ofList_eq hasc)
  obtain ⟨htyped, hfailing, hskipped⟩ := sorted_toJson h
  have hfailures : c.failures o.strict (l.toList.map fun e ↦ (e.1, e.2.toJson)) = [] :=
    List.map_eq_nil_iff.2 hfailing
  have hvalues : (c.loaded o.strict ⟨_, hasc⟩).values = l.values := NameMap.ext_entries htyped
  calc (c.loadJson o l.toJson).result
    _ = (c.loadFields o ⟨_, hasc⟩).result := result_loadJson hfields
    _ = .ok (c.loaded o.strict ⟨_, hasc⟩) := result_of_failures_eq_nil hfailures
    _ = .ok { l with skipped := [] } := by rw [← hvalues, ← hskipped, loaded]

/-- What was loaded without a double that is not finite is loaded again as it is, in every mode and
from the values alone. -/
theorem loadJson_toJson {first : LoadOptions} {schema : Json} {l : LoadedSchema}
    (h : (c.loadJson first schema).result = .ok l) (hfinite : ∀ e ∈ l.toList, e.2.Finite)
    (o : LoadOptions) : (c.loadJson o l.toJson).result = .ok { l with skipped := [] } := by
  cases hs : schema.fields? with
  | none =>
      rw [loadJson, hs] at h
      cases h
  | some fields =>
      rw [result_loadJson hs] at h
      obtain rfl := eq_loaded_of_result_eq_ok h
      exact result_toJson (fun e he ↦ ⟨typeOf_of_mem_loaded he, hfinite e he⟩) o

/-- A single text and a single double become arrays of one item, an integer becomes a number, a
member is skipped, and what was loaded is loaded again by a strict loading that collects errors but
keeps none. -/
theorem loadJson_toJson_coerced :
    let c := ((empty.insert ⟨"ratio", .array .number, rfl⟩).insert
      ⟨"title", .array .string, rfl⟩).insert ⟨"minimum", .scalar .number, rfl⟩
    let schema := Json.object [("title", .string "a"), ("other", .null), ("ratio", .double 0.5),
      ("minimum", .ofInt64 3)]
    let values := NameMap.ofList [("minimum", TypedValue.scalar .number (Scalar.widen 3)),
      ("ratio", .array .number [0.5]), ("title", .array .string ["a"])]
    let l : LoadedSchema := ⟨values, ["other"]⟩
    (c.loadJson ⟨false, false, 8⟩ schema).result = .ok l ∧ (∀ e ∈ l.toList, e.2.Finite) ∧
      (c.loadJson ⟨true, true, 0⟩ l.toJson).result = .ok ⟨values, []⟩ := by
  intro c schema values l
  have hl : (c.loadJson ⟨false, false, 8⟩ schema).result = .ok l := rfl
  have hfinite : ∀ e ∈ l.toList, e.2.Finite := by
    refine List.forall_mem_cons.2 ⟨?_, List.forall_mem_cons.2 ⟨?_,
      List.forall_mem_cons.2 ⟨?_, nofun⟩⟩⟩
    · rintro x (_ | ⟨_, ⟨⟩⟩)
      exact Scalar.isFinite_widen 3
    · rintro x (_ | ⟨_, ⟨⟩⟩)
      decide
    · rintro x (_ | ⟨_, ⟨⟩⟩)
  exact ⟨hl, hfinite, loadJson_toJson hl hfinite ⟨true, true, 0⟩⟩

end Catalog

end KeywordValues
