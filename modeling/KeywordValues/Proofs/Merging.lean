import KeywordValues.Proofs.CatalogCalls

/-!
# Merging catalogs

Catalogs form a partial commutative monoid. Two of them are merged exactly if they share no name,
and then neither the order of the two nor the bracketing of three matters. If they share names, the
first of these in the order of bytes is reported from both sides. None of this depends on the order
in which the keywords of the other catalog are visited.
-/

namespace KeywordValues.Catalog

variable {a b c d bc : Catalog} {e : CatalogError} {name : String} {type : DataType}

/-- Catalogs with the same types are one catalog. -/
theorem ext_typeOf (h : ∀ name type, a.typeOf name = .ok type ↔ b.typeOf name = .ok type) :
    a = b := by
  apply ext_types
  intro name
  ext type
  rw [← typeOf_eq_ok_iff, ← typeOf_eq_ok_iff, h]

/-- Two catalogs are equal if they have the same names with the same types. -/
theorem ext_names (hn : a.names = b.names) (ht : ∀ name ∈ a.names, a.typeOf name = b.typeOf name) :
    a = b := by
  have hmem {c : Catalog} {name : String} {type : DataType} (h : c.typeOf name = .ok type) :
      name ∈ c.names :=
    mem_names_iff.2 (contains_iff_exists.2 ⟨type, typeOf_eq_ok_iff.1 h⟩)
  apply ext_typeOf
  intro name type
  by_cases h : name ∈ a.names
  · rw [ht name h]
  · exact iff_of_false (fun ha ↦ h (hmem ha)) fun hb ↦ h (hn ▸ hmem hb)

/-! ## Names that are shared -/

/-- Two catalogs both have a name. -/
def Shares (a b : Catalog) (name : String) : Prop :=
  a.contains name = true ∧ b.contains name = true

theorem Shares.symm (h : a.Shares b name) : b.Shares a name := ⟨h.2, h.1⟩

/-- Two catalogs share no name. -/
def Disjoint (a b : Catalog) : Prop := ∀ name, ¬ a.Shares b name

theorem Disjoint.symm (h : a.Disjoint b) : b.Disjoint a := fun name hn ↦ h name hn.symm

/-- A name is the first in the order of bytes that two catalogs share. -/
structure FirstShared (a b : Catalog) (name : String) : Prop where
  shared : a.Shares b name
  least : ∀ other, Text.Precedes other name → ¬ a.Shares b other

theorem FirstShared.symm (h : a.FirstShared b name) : b.FirstShared a name where
  shared := h.shared.symm
  least other hlt hn := h.least other hlt hn.symm

theorem FirstShared.unique {other : String} (h : a.FirstShared b name)
    (h' : a.FirstShared b other) : name = other := by
  have hle : ¬ name < other := fun hlt ↦ h'.least name (Text.precedes_iff.2 hlt) h.shared
  have hge : ¬ other < name := fun hlt ↦ h.least other (Text.precedes_iff.2 hlt) h'.shared
  exact NameMap.eq_of_not_lt hle hge

/-- The names of a catalog ascend, so the first that is found in another is the first shared. -/
theorem firstShared_of_find?_eq_some (h : b.names.find? a.contains = some name) :
    a.FirstShared b name := by
  obtain ⟨ha, before, after, hnames, hbefore⟩ := List.find?_eq_some_iff_append.1 h
  have hb : b.contains name = true := mem_names_iff.1 (List.mem_of_find?_eq_some h)
  refine ⟨⟨ha, hb⟩, fun other hlt hother ↦ ?_⟩
  have hmem : other ∈ b.names := mem_names_iff.2 hother.2
  have hascending : b.names.Pairwise Text.Precedes := b.coherent.ascending
  rw [hnames] at hmem hascending
  rcases List.mem_append.1 hmem with hmem | hmem
  · have hfree := hbefore other hmem
    rw [hother.1] at hfree
    cases hfree
  · -- what stands behind the name is greater
    have hle := (List.pairwise_append.1 hascending).2.1
    rcases List.mem_cons.1 hmem with rfl | hmem
    · exact String.lt_irrefl _ (Text.precedes_iff.1 hlt)
    · have hgt : Text.Precedes name other := (List.pairwise_cons.1 hle).1 other hmem
      exact String.lt_asymm (Text.precedes_iff.1 hlt) (Text.precedes_iff.1 hgt)

theorem disjoint_of_find?_eq_none (h : b.names.find? a.contains = none) : a.Disjoint b := by
  intro name hn
  exact List.find?_eq_none.1 h name (mem_names_iff.2 hn.2) hn.1

/-! ## Merging two catalogs -/

/-- Catalogs without a shared name are merged, and otherwise the first shared name is reported. -/
theorem extend_cases_of_shares (a b : Catalog) :
    (a.Disjoint b ∧ ∃ d, a.extend b = .ok d) ∨
      ∃ name, a.FirstShared b name ∧ a.extend b = .error (.duplicate name) := by
  cases hf : b.names.find? a.contains with
  | some name => exact .inr ⟨name, firstShared_of_find?_eq_some hf, by rw [extend, hf]⟩
  | none =>
      refine .inl ⟨disjoint_of_find?_eq_none hf, a.insertAll b.keywords, ?_⟩
      rw [extend, hf]
      exact registerAll_eq_ok (admits_keywords_of_find?_eq_none hf)

theorem exists_extend_eq_ok_iff : (∃ d, a.extend b = .ok d) ↔ a.Disjoint b := by
  rcases extend_cases_of_shares a b with ⟨hd, hok⟩ | ⟨name, hn, herror⟩
  · exact iff_of_true hok hd
  · exact iff_of_false (by simp [herror]) fun hd ↦ hd name hn.shared

theorem extend_eq_error_iff :
    a.extend b = .error e ↔ ∃ name, e = .duplicate name ∧ a.FirstShared b name := by
  rcases extend_cases_of_shares a b with ⟨hd, d, hok⟩ | ⟨name, hn, herror⟩
  · rw [hok]
    refine iff_of_false nofun ?_
    rintro ⟨name, -, hn⟩
    exact hd name hn.shared
  · rw [herror, Except.error.injEq]
    constructor
    · rintro rfl
      exact ⟨name, rfl, hn⟩
    · rintro ⟨other, rfl, hother⟩
      rw [hn.unique hother]

/-- What a merged catalog binds. -/
theorem typeOf_extend (h : a.extend b = .ok d) :
    d.typeOf name = .ok type ↔ a.typeOf name = .ok type ∨ b.typeOf name = .ok type :=
  (extend_eq_ok_iff.1 h).2 name type

/-- A merged catalog has the names of both. -/
theorem contains_extend (h : a.extend b = .ok d) :
    d.contains name = true ↔ a.contains name = true ∨ b.contains name = true := by
  simp only [contains_iff_exists, ← typeOf_eq_ok_iff, typeOf_extend h, exists_or]

theorem extend_comm (a b : Catalog) : a.extend b = b.extend a := by
  rcases extend_cases_of_shares a b with ⟨hd, d, hok⟩ | ⟨name, hn, herror⟩
  · obtain ⟨d', hok'⟩ := exists_extend_eq_ok_iff.2 hd.symm
    rw [hok, hok', Except.ok.injEq]
    apply ext_typeOf
    intro name type
    rw [typeOf_extend hok, typeOf_extend hok', or_comm]
  · rw [herror, extend_eq_error_iff.2 ⟨name, rfl, hn.symm⟩]

theorem extend_empty (a : Catalog) : a.extend empty = .ok a := rfl

theorem empty_extend (a : Catalog) : empty.extend a = .ok a := by
  rw [extend_comm, extend_empty]

/-! ## Merging three catalogs -/

/-- A catalog shares no name with a merged one exactly if it shares none with its parts. -/
theorem disjoint_extend_iff (h : b.extend c = .ok bc) :
    a.Disjoint bc ↔ a.Disjoint b ∧ a.Disjoint c := by
  simp only [Disjoint, Shares, contains_extend h]
  constructor
  · intro hd
    exact ⟨fun name hn ↦ hd name ⟨hn.1, .inl hn.2⟩, fun name hn ↦ hd name ⟨hn.1, .inr hn.2⟩⟩
  · rintro ⟨hb, hc⟩ name ⟨ha, hn⟩
    rcases hn with hn | hn
    · exact hb name ⟨ha, hn⟩
    · exact hc name ⟨ha, hn⟩

/-- Three catalogs are merged from the right exactly if any two of them share no name, and the
result binds what they bind. -/
theorem exists_extend_extend_eq_ok_iff : (∃ bc, b.extend c = .ok bc ∧ a.extend bc = .ok d) ↔
    (a.Disjoint b ∧ a.Disjoint c ∧ b.Disjoint c) ∧ ∀ name type, d.typeOf name = .ok type ↔
      a.typeOf name = .ok type ∨ b.typeOf name = .ok type ∨ c.typeOf name = .ok type := by
  constructor
  · rintro ⟨bc, hbc, habc⟩
    have hd : a.Disjoint bc := exists_extend_eq_ok_iff.1 ⟨d, habc⟩
    obtain ⟨hb, hc⟩ := (disjoint_extend_iff hbc).1 hd
    refine ⟨⟨hb, hc, exists_extend_eq_ok_iff.1 ⟨bc, hbc⟩⟩, fun name type ↦ ?_⟩
    rw [typeOf_extend habc, typeOf_extend hbc]
  · rintro ⟨⟨hb, hc, hbc⟩, htypes⟩
    obtain ⟨bc, hbc⟩ := exists_extend_eq_ok_iff.2 hbc
    obtain ⟨d', habc⟩ := exists_extend_eq_ok_iff.2 ((disjoint_extend_iff hbc).2 ⟨hb, hc⟩)
    have hd : d' = d := by
      apply ext_typeOf
      intro name type
      rw [typeOf_extend habc, typeOf_extend hbc, htypes]
    exact ⟨bc, hbc, hd ▸ habc⟩

/-- It does not matter which two of three catalogs are merged first. -/
theorem extend_assoc : (∃ ab, a.extend b = .ok ab ∧ ab.extend c = .ok d) ↔
    ∃ bc, b.extend c = .ok bc ∧ a.extend bc = .ok d := by
  -- merging from the left is merging `c`, `a` and `b` from the right, up to the order of two
  have hleft : (∃ ab, a.extend b = .ok ab ∧ ab.extend c = .ok d) ↔
      ∃ ab, a.extend b = .ok ab ∧ c.extend ab = .ok d := by
    simp only [extend_comm _ c]
  rw [hleft, exists_extend_extend_eq_ok_iff, exists_extend_extend_eq_ok_iff]
  refine and_congr ⟨fun ⟨hca, hcb, hab⟩ ↦ ⟨hab, hca.symm, hcb.symm⟩,
    fun ⟨hab, hac, hbc⟩ ↦ ⟨hac.symm, hbc.symm, hab⟩⟩ (forall₂_congr fun name type ↦ ?_)
  rw [or_comm, or_assoc]

/-! ## The monoid -/

/-- Merging is a partial commutative monoid on catalogs, which are told apart by their names and
types alone. Two catalogs are merged exactly if they share no name; the order of two and the
bracketing of three do not matter, for success nor for the result; the empty catalog is neutral;
and what is reported is the first name in the order of bytes that both have. All of this is the
case in whatever order the keywords of the other catalog are visited. -/
theorem extend_partialCommMonoid (a b c : Catalog) :
    (a.names = b.names → (∀ name ∈ a.names, a.typeOf name = b.typeOf name) → a = b) ∧
    ((∃ d, a.extend b = .ok d) ↔ ∀ name, ¬ (a.contains name = true ∧ b.contains name = true)) ∧
    a.extend b = b.extend a ∧
    (∀ d, (∃ ab, a.extend b = .ok ab ∧ ab.extend c = .ok d) ↔
      ∃ bc, b.extend c = .ok bc ∧ a.extend bc = .ok d) ∧
    a.extend empty = .ok a ∧ empty.extend a = .ok a ∧
    (∀ e, a.extend b = .error e ↔ ∃ name, e = .duplicate name ∧
      (a.contains name = true ∧ b.contains name = true) ∧
      ∀ other, Text.Precedes other name →
        ¬ (a.contains other = true ∧ b.contains other = true)) ∧
    (∀ visited (hp : visited.Perm b.keywords), a.perform (.extend b visited hp) =
      match a.extend b with
      | .ok d => (d, .ok ())
      | .error e => (a, .error e)) := by
  refine ⟨ext_names, exists_extend_eq_ok_iff, extend_comm a b, fun d ↦ extend_assoc,
    extend_empty a, empty_extend a, fun e ↦ ?_, fun visited hp ↦ perform_eq_inPlace a _⟩
  rw [extend_eq_error_iff]
  constructor
  · rintro ⟨name, rfl, h⟩
    exact ⟨name, rfl, h.shared, h.least⟩
  · rintro ⟨name, rfl, hshared, hleast⟩
    exact ⟨name, rfl, hshared, hleast⟩

end KeywordValues.Catalog
