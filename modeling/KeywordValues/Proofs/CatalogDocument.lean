import KeywordValues.Catalog.Document
import KeywordValues.Proofs.Catalog
import KeywordValues.Proofs.Elementwise

/-!
# Facts about catalog documents

A member of a document defines a keyword if its type is known, its name is not blank and its name
is free. Keywords that are defined by the members of one object can be registered one after the
other, since an object has a name only once. Extending a catalog by a document is to define all
keywords first and to register them then.
-/

namespace KeywordValues.Catalog

variable {c : Catalog} {fields : NameMap Json} {m : String × Json} {name : String}
  {type : DataType} {k : Keyword} {ks : List Keyword}

/-! ## Members -/

theorem define_eq_ok_iff : c.define m = .ok k ↔
    DataType.ofName (typeText m.2) = .ok k.dataType ∧ k.name = m.1 ∧
      c.contains m.1 = false := by
  unfold define
  split
  · rename_i e ht
    simp [ht]
  · rename_i type ht
    rw [ht, Except.ok.injEq]
    split
    · rename_i hk
      simp only [reduceCtorEq, false_iff]
      rintro ⟨rfl, hn, -⟩
      cases hk.symm.trans (Keyword.ofName?_eq_some_iff.2 ⟨hn, rfl⟩)
    · rename_i l hk
      obtain ⟨hn, rfl⟩ := Keyword.ofName?_eq_some_iff.1 hk
      rw [← hn]
      by_cases hc : c.contains l.name = true
      · simp [hc]
      · rw [if_neg hc, Except.ok.injEq]
        constructor
        · rintro rfl
          exact ⟨rfl, rfl, Bool.eq_false_iff.2 hc⟩
        · rintro ⟨ht, hn, -⟩
          exact Keyword.ext hn.symm ht

theorem exists_define_eq_ok_iff : (∃ k, c.define m = .ok k) ↔
    (∃ type, DataType.ofName (typeText m.2) = .ok type) ∧ Text.isBlankText m.1 = false ∧
      c.contains m.1 = false := by
  constructor
  · rintro ⟨k, hk⟩
    have ⟨ht, hn, hc⟩ := define_eq_ok_iff.1 hk
    exact ⟨⟨_, ht⟩, hn ▸ k.named, hc⟩
  · rintro ⟨⟨type, ht⟩, hb, hc⟩
    exact ⟨⟨m.1, type, hb⟩, define_eq_ok_iff.2 ⟨ht, rfl, hc⟩⟩

/-! ## Objects -/

/-- The keywords of an object have the names of its members. -/
theorem map_name_of_mapM_define (h : fields.entries.mapM c.define = .ok ks) :
    ks.map Keyword.name = fields.names :=
  map_eq_map_of_mapM_eq_ok (fun _ _ hm ↦ (define_eq_ok_iff.1 hm).2.1) h

theorem admits_of_mapM_define (h : fields.entries.mapM c.define = .ok ks) : c.Admits ks where
  free k hk := by
    obtain ⟨m, -, hm⟩ := (mem_of_mapM_eq_ok h).1 hk
    have ⟨_, hn, hc⟩ := define_eq_ok_iff.1 hm
    exact hn ▸ hc
  nodup := map_name_of_mapM_define h ▸ fields.nodup_names

/-- The keywords of an object are bound as its members say. -/
theorem exists_mem_iff_of_mapM_define (h : fields.entries.mapM c.define = .ok ks) :
    (∃ k ∈ ks, k.name = name ∧ k.dataType = type) ↔
      ∃ j, (name, j) ∈ fields.entries ∧ DataType.ofName (typeText j) = .ok type := by
  simp only [mem_of_mapM_eq_ok h]
  constructor
  · rintro ⟨k, ⟨m, hm, hk⟩, rfl, rfl⟩
    have ⟨ht, hn, _⟩ := define_eq_ok_iff.1 hk
    exact ⟨m.2, hn ▸ hm, ht⟩
  · rintro ⟨j, hj, ht⟩
    obtain ⟨k, hk⟩ := exists_mapM_eq_ok_iff.1 ⟨ks, h⟩ _ hj
    have ⟨ht', hn, _⟩ := define_eq_ok_iff.1 hk
    exact ⟨k, ⟨_, hj, hk⟩, hn, Except.ok.inj (ht'.symm.trans ht)⟩

/-! ## Documents -/

variable {text : String}

/-- A text is the document of an object. -/
def IsDocument (text : String) (fields : NameMap Json) : Prop :=
  ∃ j, Json.read text = .ok j ∧ j.fields? = some fields

theorem IsDocument.unique {fields' : NameMap Json} (h : IsDocument text fields)
    (h' : IsDocument text fields') : fields = fields' := by
  obtain ⟨j, hj, hf⟩ := h
  obtain ⟨j', hj', hf'⟩ := h'
  cases hj.symm.trans hj'
  exact Option.some.inj (hf.symm.trans hf')

/-- The keywords that a document defines, of which none is registered yet. -/
def prepare (c : Catalog) (text : String) : Except CatalogError (List Keyword) :=
  match Json.read text with
  | .error e => .error (.invalid e)
  | .ok j =>
      match j.fields? with
      | none => .error .notAnObject
      | some fields => fields.entries.mapM c.define

theorem prepare_eq_ok_iff : c.prepare text = .ok ks ↔
    ∃ fields, IsDocument text fields ∧ fields.entries.mapM c.define = .ok ks := by
  unfold prepare IsDocument
  constructor
  · intro h
    split at h
    · cases h
    · rename_i j hj
      split at h
      · cases h
      · rename_i fields hf
        exact ⟨fields, ⟨j, hj, hf⟩, h⟩
  · rintro ⟨fields, ⟨j, hj, hf⟩, h⟩
    simp only [hj, hf, h]

theorem extendByText_of_prepare_eq_ok (h : c.prepare text = .ok ks) :
    c.extendByText text = c.registerAll ks := by
  obtain ⟨fields, ⟨j, hj, hf⟩, hm⟩ := prepare_eq_ok_iff.1 h
  simp only [extendByText, extendByJson, extendByFields, hj, hf, hm]

theorem extendByText_of_prepare_eq_error {e : CatalogError} (h : c.prepare text = .error e) :
    c.extendByText text = .error e := by
  unfold prepare at h
  split at h
  · rename_i hj
    cases h
    rw [extendByText, hj]
  · rename_i j hj
    split at h
    · rename_i hf
      cases h
      simp only [extendByText, extendByJson, hj, hf]
    · rename_i fields hf
      simp only [extendByText, extendByJson, extendByFields, hj, hf, h]

end KeywordValues.Catalog
