import KeywordValues.Proofs.CatalogDocument
import KeywordValues.Proofs.PrintedText

/-!
# Which catalog documents are accepted

A member of a document defines a keyword if its value is a text that names a data type, its name is
not blank and its name is free. What is no text never does, since its printed form is the name of no
data type. A document is accepted exactly if all its members define keywords. Otherwise the member
at fault whose name stands first in the order of bytes decides the error, and of its faults the one
that is looked for first.
-/

namespace KeywordValues.Catalog

variable {c d : Catalog} {j : Json} {fields : NameMap Json} {m : String × Json} {type : DataType}
  {k : Keyword} {ks : List Keyword} {e : CatalogError}

/-! ## Members -/

/-- A text that is the name of a data type, up to padding and the case of ASCII letters. -/
def Names (j : Json) (type : DataType) : Prop :=
  ∃ s, j = .string s ∧ Text.foldCase (Text.trim s) = type.name

/-- A member that defines a keyword of a type in a catalog. -/
structure Defines (c : Catalog) (m : String × Json) (type : DataType) : Prop where
  names : Names m.2 type
  named : Text.trim m.1 ≠ ""
  free : c.contains m.1 = false

/-- What an unknown type is called: a text without its padding, any other value as it is printed. -/
def calledType : Json → String
  | .string s => Text.trim s
  | j => j.print

/-- The fault of a member that defines no keyword. A type that is unknown goes before a name that is
blank, and this before a name that is taken. -/
inductive Fault (c : Catalog) (m : String × Json) : CatalogError → Prop
  | unknownType (h : ∀ type, ¬ Names m.2 type) :
      Fault c m (.definition m.1 ⟨calledType m.2⟩)
  | emptyName (type : DataType) (h : Names m.2 type) (hblank : Text.trim m.1 = "") :
      Fault c m .emptyName
  | duplicate (type : DataType) (h : Names m.2 type) (hnamed : Text.trim m.1 ≠ "")
      (htaken : c.contains m.1 = true) : Fault c m (.duplicate m.1)

theorem not_names_of_not_string (h : ∀ s, j ≠ .string s) : ¬ Names j type := by
  rintro ⟨s, hs, -⟩
  exact h s hs

theorem names_string_iff {s : String} :
    Names (.string s) type ↔ Text.foldCase (Text.trim s) = type.name := by
  constructor
  · rintro ⟨_, ⟨⟩, h⟩
    exact h
  · intro h
    exact ⟨s, rfl, h⟩

/-- The printed form of what is no text is no name of a type. -/
theorem ofName_typeText_of_not_string (h : ∀ s, j ≠ .string s) :
    DataType.ofName (typeText j) = .error ⟨calledType j⟩ := by
  cases j with
  | string s => exact absurd rfl (h s)
  | _ => exact DataType.ofName_print h

theorem ofName_typeText_eq_ok_iff : DataType.ofName (typeText j) = .ok type ↔ Names j type := by
  by_cases h : ∃ s, j = .string s
  · obtain ⟨s, rfl⟩ := h
    rw [names_string_iff]
    exact DataType.ofName_eq_ok_iff
  · rw [not_exists] at h
    rw [ofName_typeText_of_not_string h]
    exact iff_of_false nofun (not_names_of_not_string h)

theorem ofName_typeText_eq_error_iff {cause : UnknownType} :
    DataType.ofName (typeText j) = .error cause ↔
      (∀ type, ¬ Names j type) ∧ cause = ⟨calledType j⟩ := by
  by_cases h : ∃ s, j = .string s
  · obtain ⟨s, rfl⟩ := h
    simp only [names_string_iff]
    exact DataType.ofName_eq_error_iff
  · rw [not_exists] at h
    rw [ofName_typeText_of_not_string h, Except.error.injEq]
    constructor
    · rintro rfl
      exact ⟨fun type ↦ not_names_of_not_string h, rfl⟩
    · rintro ⟨-, rfl⟩
      rfl

theorem define_eq_ok_iff_defines :
    c.define m = .ok k ↔ c.Defines m k.dataType ∧ k.name = m.1 := by
  rw [define_eq_ok_iff, ofName_typeText_eq_ok_iff]
  constructor
  · rintro ⟨hn, hk, hc⟩
    exact ⟨⟨hn, hk ▸ k.trim_name_ne_empty, hc⟩, hk⟩
  · rintro ⟨⟨hn, -, hc⟩, hk⟩
    exact ⟨hn, hk, hc⟩

theorem exists_define_eq_ok_iff_defines :
    (∃ k, c.define m = .ok k) ↔ ∃ type, c.Defines m type := by
  simp only [define_eq_ok_iff_defines]
  constructor
  · rintro ⟨k, hk, -⟩
    exact ⟨_, hk⟩
  · rintro ⟨type, h⟩
    have hn : Text.isBlankText m.1 = false :=
      Bool.eq_false_iff.2 (mt Text.trim_eq_empty_iff.2 h.named)
    exact ⟨⟨m.1, type, hn⟩, h, rfl⟩

theorem define_eq_error_iff : c.define m = .error e ↔ c.Fault m e := by
  unfold define
  constructor
  · intro h
    split at h
    · rename_i cause ht
      obtain ⟨hn, rfl⟩ := ofName_typeText_eq_error_iff.1 ht
      cases h
      exact .unknownType hn
    · rename_i type ht
      have hn : Names m.2 type := ofName_typeText_eq_ok_iff.1 ht
      split at h
      · rename_i hk
        cases h
        exact .emptyName type hn (Text.trim_eq_empty_iff.2 (Keyword.ofName?_eq_none_iff.1 hk))
      · rename_i k hk
        obtain ⟨hname, -⟩ := Keyword.ofName?_eq_some_iff.1 hk
        split at h <;> cases h
        rename_i hc
        rw [hname] at hc ⊢
        exact .duplicate type hn (hname ▸ k.trim_name_ne_empty) hc
  · intro h
    cases h with
    | unknownType hn =>
        rw [ofName_typeText_eq_error_iff.2 ⟨hn, rfl⟩]
    | emptyName type hn hblank =>
        rw [ofName_typeText_eq_ok_iff.2 hn]
        simp only [Keyword.ofName?_eq_none_iff.2 (Text.trim_eq_empty_iff.1 hblank)]
    | duplicate type hn hnamed htaken =>
        have hb : Text.isBlankText m.1 = false :=
          Bool.eq_false_iff.2 (mt Text.trim_eq_empty_iff.2 hnamed)
        have hk : Keyword.ofName? m.1 type = some ⟨m.1, type, hb⟩ :=
          Keyword.ofName?_eq_some_iff.2 ⟨rfl, rfl⟩
        rw [ofName_typeText_eq_ok_iff.2 hn]
        simp only [hk, htaken, if_true]

/-! ## Objects -/

/-- The fault of the member at fault before which no other stands in the order of bytes. -/
def LeastFault (c : Catalog) (fields : NameMap Json) (e : CatalogError) : Prop :=
  ∃ m ∈ fields.entries, c.Fault m e ∧
    ∀ n ∈ fields.entries, Text.Precedes n.1 m.1 → ∃ type, c.Defines n type

theorem extendByFields_eq_error_iff :
    c.extendByFields fields = .error e ↔ c.LeastFault fields e := by
  unfold extendByFields LeastFault
  simp only [← define_eq_error_iff, ← exists_define_eq_ok_iff_defines,
    ← NameMap.mapM_entries_eq_error_iff]
  split
  · rename_i h
    rw [h, Except.error.injEq, Except.error.injEq]
  · rename_i ks h
    rw [h, registerAll_eq_ok (admits_of_mapM_define h)]
    exact iff_of_false nofun nofun

/-- Exactly the catalogs that bind what was bound and what the members name are what an object can
extend a catalog to. -/
theorem extendByFields_eq_ok_iff : c.extendByFields fields = .ok d ↔
    (∀ m ∈ fields.entries, ∃ type, c.Defines m type) ∧
      ∀ name type, d.typeOf name = .ok type ↔
        c.typeOf name = .ok type ∨ ∃ j, (name, j) ∈ fields.entries ∧ Names j type := by
  simp only [← exists_define_eq_ok_iff_defines, ← exists_mapM_eq_ok_iff]
  unfold extendByFields
  cases hm : fields.entries.mapM c.define with
  | error e => simp
  | ok ks =>
      have ha : c.Admits ks := admits_of_mapM_define hm
      have hbinds (name : String) (type : DataType) :
          (c.insertAll ks).typeOf name = .ok type ↔
            c.typeOf name = .ok type ∨ ∃ j, (name, j) ∈ fields.entries ∧ Names j type := by
        rw [typeOf_eq_ok_iff, types_insertAll_iff ha, exists_mem_iff_of_mapM_define hm,
          typeOf_eq_ok_iff, or_comm]
        simp only [ofName_typeText_eq_ok_iff]
      simp only [registerAll_eq_ok ha, Except.ok.injEq, exists_eq', true_and]
      constructor
      · rintro rfl
        exact hbinds
      · intro h
        refine ext_types fun name ↦ Option.ext fun type ↦ ?_
        rw [← typeOf_eq_ok_iff, ← typeOf_eq_ok_iff, hbinds, h]

theorem exists_extendByFields_eq_ok_iff : (∃ d, c.extendByFields fields = .ok d) ↔
    ∀ m ∈ fields.entries, ∃ type, c.Defines m type := by
  constructor
  · rintro ⟨d, hd⟩
    exact (extendByFields_eq_ok_iff.1 hd).1
  · intro h
    cases hc : c.extendByFields fields with
    | ok d => exact ⟨d, rfl⟩
    | error e =>
        -- a member at fault defines nothing
        obtain ⟨m, hm, hfault, -⟩ := extendByFields_eq_error_iff.1 hc
        obtain ⟨k, hk⟩ := exists_define_eq_ok_iff_defines.2 (h m hm)
        cases hk.symm.trans (define_eq_error_iff.2 hfault)

/-! ## Documents -/

/-- A document extends a catalog exactly if it is an object whose members all define keywords, and
then it binds their names as they are written, and nothing else. A member that is no text is never
accepted. Otherwise the error is that of the least member at fault. -/
theorem extendByJson_iff_wellFormed (c : Catalog) (j : Json) :
    ((∃ d, c.extendByJson j = .ok d) ↔
      ∃ fields, j.fields? = some fields ∧ ∀ m ∈ fields.entries, ∃ type, c.Defines m type) ∧
    (∀ d, c.extendByJson j = .ok d ↔
      ∃ fields, j.fields? = some fields ∧ (∀ m ∈ fields.entries, ∃ type, c.Defines m type) ∧
        ∀ name type, d.typeOf name = .ok type ↔
          c.typeOf name = .ok type ∨ ∃ t, (name, t) ∈ fields.entries ∧ Names t type) ∧
    (∀ fields m, j.fields? = some fields → m ∈ fields.entries → (∀ s, m.2 ≠ .string s) →
      ¬ ∃ d, c.extendByJson j = .ok d) ∧
    (∀ e, c.extendByJson j = .error e ↔
      (j.fields? = none ∧ e = .notAnObject) ∨
        ∃ fields, j.fields? = some fields ∧ c.LeastFault fields e) ∧
    (∀ text, Json.read text = .ok j → c.extendByText text = c.extendByJson j) := by
  have htext (text : String) (h : Json.read text = .ok j) :
      c.extendByText text = c.extendByJson j := by
    rw [extendByText, h]
  cases hf : j.fields? with
  | none =>
      have hj : c.extendByJson j = .error .notAnObject := by rw [extendByJson, hf]
      rw [hj]
      refine ⟨?_, fun d ↦ ?_, fun fields m ↦ ?_, fun e ↦ ?_, hj ▸ htext⟩ <;> simp [eq_comm]
  | some fields =>
      have hj : c.extendByJson j = c.extendByFields fields := by rw [extendByJson, hf]
      have haccept : (∃ d, c.extendByFields fields = .ok d) ↔
          ∀ m ∈ fields.entries, ∃ type, c.Defines m type := exists_extendByFields_eq_ok_iff
      rw [hj]
      refine ⟨?_, fun d ↦ ?_, fun fields' m hfields hm hs hd ↦ ?_, fun e ↦ ?_, hj ▸ htext⟩
      · simpa using haccept
      · simpa using extendByFields_eq_ok_iff
      · cases hfields
        obtain ⟨type, h⟩ := haccept.1 hd m hm
        exact not_names_of_not_string hs h.names
      · simpa using extendByFields_eq_error_iff

end KeywordValues.Catalog
