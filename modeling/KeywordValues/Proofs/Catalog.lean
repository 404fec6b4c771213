import KeywordValues.Catalog.Standard
import KeywordValues.Proofs.NameMap
import KeywordValues.Proofs.Trim

/-!
# Facts about catalogs

What a catalog answers about a name is decided by the type it has for the name, and two catalogs
with the same types are one catalog. Registering keywords one after the other succeeds exactly if no
name is taken and none occurs twice, and then the order of the keywords does not matter.
-/

namespace KeywordValues

theorem Keyword.ext {j k : Keyword} (hn : j.name = k.name) (ht : j.dataType = k.dataType) :
    j = k := by
  cases j
  cases k
  cases hn
  cases ht
  rfl

theorem Keyword.ofName?_eq_some_iff {name : String} {type : DataType} {k : Keyword} :
    Keyword.ofName? name type = some k ↔ k.name = name ∧ k.dataType = type := by
  unfold ofName?
  constructor
  · intro h
    split at h
    · cases h
      exact ⟨rfl, rfl⟩
    · cases h
  · rintro ⟨rfl, rfl⟩
    rw [dif_pos k.named]

theorem Keyword.ofName?_eq_none_iff {name : String} {type : DataType} :
    Keyword.ofName? name type = none ↔ Text.isBlankText name = true := by
  unfold ofName?
  by_cases h : Text.isBlankText name = false
  · simp [h]
  · rw [dif_neg h]
    simpa using h

theorem Keyword.trim_name_ne_empty (k : Keyword) : Text.trim k.name ≠ "" := by
  rw [Ne, Text.trim_eq_empty_iff, k.named]
  exact Bool.false_ne_true

namespace Catalog

variable {c d : Catalog} {name : String} {type : DataType} {k : Keyword}

theorem ext_types (h : ∀ name, c.types.get? name = d.types.get? name) : c = d := by
  have ht : c.types = d.types := NameMap.ext_get? h
  cases c
  cases d
  cases ht
  rfl

/-! ## Look-ups -/

theorem get?_eq_some_iff :
    c.get? name = some k ↔ k.name = name ∧ c.types.get? name = some k.dataType := by
  unfold get?
  split
  · rename_i h
    simp [h]
  · rename_i type h
    simp only [h, Option.some.injEq]
    constructor
    · rintro rfl
      exact ⟨rfl, rfl⟩
    · rintro ⟨hn, ht⟩
      exact Keyword.ext hn.symm ht

theorem get?_eq_none_iff : c.get? name = none ↔ c.contains name = false := by
  rw [contains, ← NameMap.get?_eq_none_iff]
  unfold get?
  split
  · rename_i h
    simp [h]
  · rename_i h
    simp [h]

theorem typeOf_eq_ok_iff : c.typeOf name = .ok type ↔ c.types.get? name = some type := by
  unfold typeOf
  split
  · rename_i k h
    have ⟨_, ht⟩ := get?_eq_some_iff.1 h
    rw [ht, Option.some.injEq, Except.ok.injEq]
  · rename_i h
    rw [NameMap.get?_eq_none_iff.2 (get?_eq_none_iff.1 h)]
    simp

theorem contains_iff_exists : c.contains name = true ↔ ∃ type, c.types.get? name = some type :=
  Option.isSome_iff_exists

theorem contains_of_get?_eq_some (h : c.get? name = some k) : c.contains name = true :=
  contains_iff_exists.2 ⟨_, (get?_eq_some_iff.1 h).2⟩

theorem mem_names_iff : name ∈ c.names ↔ c.contains name = true :=
  NameMap.contains_iff.symm

/-! ## Keywords -/

theorem mem_keywords_iff : k ∈ c.keywords ↔ c.types.get? k.name = some k.dataType := by
  unfold keywords
  rw [NameMap.get?_eq_some_iff, List.mem_map]
  constructor
  · rintro ⟨e, _, rfl⟩
    exact e.2
  · intro h
    exact ⟨⟨_, h⟩, List.mem_attach .., rfl⟩

theorem exists_mem_keywords_iff :
    (∃ k ∈ c.keywords, k.name = name ∧ k.dataType = type) ↔ c.types.get? name = some type := by
  simp only [mem_keywords_iff]
  constructor
  · rintro ⟨k, hk, rfl, rfl⟩
    exact hk
  · intro h
    exact ⟨⟨name, type, c.named _ (NameMap.mem_of_get? h)⟩, h, rfl, rfl⟩

theorem map_name_keywords : c.keywords.map Keyword.name = c.names := by
  simp [keywords, names, NameMap.names, Function.comp_def, List.attach_map_val]

/-! ## Registration -/

theorem types_get?_insert (c : Catalog) (k : Keyword) (name : String) :
    (c.insert k).types.get? name = if k.name = name then some k.dataType else c.types.get? name :=
  NameMap.get?_insert ..

theorem contains_insert (c : Catalog) (k : Keyword) (name : String) :
    (c.insert k).contains name = (decide (k.name = name) || c.contains name) := by
  unfold contains NameMap.contains
  rw [types_get?_insert]
  split <;> simp [*]

/-- Keywords that can be registered one after the other: no name is taken, and none occurs twice. -/
structure Admits (c : Catalog) (ks : List Keyword) : Prop where
  free : ∀ k ∈ ks, c.contains k.name = false
  nodup : (ks.map Keyword.name).Nodup

/-- The catalog with keywords put into their places. -/
def insertAll (c : Catalog) (ks : List Keyword) : Catalog := ks.foldl insert c

variable {ks ls : List Keyword}

theorem Admits.perm (h : c.Admits ks) (hp : ls.Perm ks) : c.Admits ls where
  free k hk := h.free k (hp.mem_iff.1 hk)
  nodup := (hp.map _).nodup_iff.2 h.nodup

theorem Admits.head (h : c.Admits (k :: ks)) : c.register k = .ok (c.insert k) := by
  rw [register, if_neg (by simp [h.free k (List.mem_cons_self ..)])]

theorem Admits.tail (h : c.Admits (k :: ks)) : (c.insert k).Admits ks where
  free j hj := by
    have hne : k.name ≠ j.name := fun e ↦
      (List.nodup_cons.1 h.nodup).1 (e ▸ List.mem_map_of_mem hj)
    simp [contains_insert, hne, h.free j (List.mem_cons_of_mem _ hj)]
  nodup := (List.nodup_cons.1 h.nodup).2

/-- The types after keywords are put into their places: those of the keywords, and those that were
there. -/
theorem types_insertAll_iff (h : c.Admits ks) : (c.insertAll ks).types.get? name = some type ↔
    (∃ k ∈ ks, k.name = name ∧ k.dataType = type) ∨ c.types.get? name = some type := by
  induction ks generalizing c with
  | nil => simp [insertAll]
  | cons k ks ih =>
      have hs : c.insertAll (k :: ks) = (c.insert k).insertAll ks := rfl
      have hk : c.types.get? k.name = none :=
        NameMap.get?_eq_none_iff.2 (h.free k (List.mem_cons_self ..))
      rw [hs, ih h.tail, types_get?_insert]
      by_cases hn : k.name = name
      · subst hn
        simp [hk, or_comm]
      · simp [hn]

/-- The order in which keywords are put into their places does not matter. -/
theorem insertAll_eq_of_perm (h : c.Admits ks) (hp : ls.Perm ks) :
    c.insertAll ls = c.insertAll ks := by
  refine ext_types fun name ↦ Option.ext fun type ↦ ?_
  simp only [types_insertAll_iff h, types_insertAll_iff (h.perm hp), hp.mem_iff]

theorem registerAll_eq_ok (h : c.Admits ks) : c.registerAll ks = .ok (c.insertAll ks) := by
  induction ks generalizing c with
  | nil => rfl
  | cons k ks ih =>
      rw [registerAll, List.foldlM_cons, h.head]
      exact ih h.tail

/-- None of the standard names is blank, so there is a keyword for every one. -/
theorem map_standardKeywords : (standardKeywords.map fun k ↦ (k.dataType, k.name)) =
    standardNames.flatMap fun g ↦ g.2.map (g.1, ·) := rfl

/-- The standard keywords can be registered one after the other, which gives the standard catalog. -/
theorem registerAll_standardKeywords : empty.registerAll standardKeywords = .ok standard :=
  registerAll_eq_ok ⟨fun _ _ ↦ rfl, by decide⟩

/-- Extending by a catalog that shares no name adds its keywords. -/
theorem admits_keywords_of_find?_eq_none (h : d.names.find? c.contains = none) :
    c.Admits d.keywords where
  free k hk := by
    have hm : k.name ∈ d.names := map_name_keywords (c := d) ▸ List.mem_map_of_mem hk
    simpa using List.find?_eq_none.1 h _ hm
  nodup := map_name_keywords (c := d) ▸ NameMap.nodup_names d.types

/-! ## Extending -/

variable {e : Catalog}

/-- A catalog extends another to the catalog that has the types of both, as long as they share no
name. -/
theorem extend_eq_ok_iff : c.extend d = .ok e ↔
    (∀ name, d.contains name = true → c.contains name = false) ∧
      ∀ name type, e.typeOf name = .ok type ↔
        c.typeOf name = .ok type ∨ d.typeOf name = .ok type := by
  unfold extend
  cases hf : d.names.find? c.contains with
  | some name =>
      have hd : d.contains name = true := mem_names_iff.1 (List.mem_of_find?_eq_some hf)
      refine iff_of_false nofun fun ⟨hfree, _⟩ ↦ ?_
      cases (List.find?_some hf).symm.trans (hfree name hd)
  | none =>
      have ha : c.Admits d.keywords := admits_keywords_of_find?_eq_none hf
      have hfree : ∀ name, d.contains name = true → c.contains name = false := fun name hd ↦ by
        simpa using List.find?_eq_none.1 hf name (mem_names_iff.2 hd)
      have htypes (name : String) (type : DataType) :
          (c.insertAll d.keywords).typeOf name = .ok type ↔
            c.typeOf name = .ok type ∨ d.typeOf name = .ok type := by
        simp only [typeOf_eq_ok_iff, types_insertAll_iff ha, exists_mem_keywords_iff, or_comm]
      simp only [registerAll_eq_ok ha, Except.ok.injEq]
      constructor
      · rintro rfl
        exact ⟨hfree, htypes⟩
      · rintro ⟨-, he⟩
        refine ext_types fun name ↦ Option.ext fun type ↦ ?_
        rw [← typeOf_eq_ok_iff, ← typeOf_eq_ok_iff, htypes, he]

/-- Catalogs with one type for a name have one keyword for it. -/
theorem get?_congr (h : ∀ type, c.typeOf name = .ok type ↔ d.typeOf name = .ok type) :
    c.get? name = d.get? name := by
  refine Option.ext fun k ↦ ?_
  simp only [get?_eq_some_iff, ← typeOf_eq_ok_iff, h]

theorem not_typeOf_eq_ok (h : c.contains name = false) : c.typeOf name ≠ .ok type := by
  intro ht
  cases h.symm.trans (contains_iff_exists.2 ⟨type, typeOf_eq_ok_iff.1 ht⟩)

/-- What the other catalog does not know is looked up as before. -/
theorem get?_extend_left (h : c.extend d = .ok e) (hd : d.contains name = false) :
    e.get? name = c.get? name :=
  get?_congr fun type ↦ by
    rw [(extend_eq_ok_iff.1 h).2, or_iff_left (not_typeOf_eq_ok hd)]

theorem get?_extend_right (h : c.extend d = .ok e) (hd : d.contains name = true) :
    e.get? name = d.get? name :=
  get?_congr fun type ↦ by
    obtain ⟨hfree, htypes⟩ := extend_eq_ok_iff.1 h
    rw [htypes, or_iff_right (not_typeOf_eq_ok (hfree name hd))]

end Catalog

end KeywordValues
