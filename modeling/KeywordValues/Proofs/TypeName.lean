import KeywordValues.DataType
import KeywordValues.Proofs.LetterCase

/-!
# Facts about the names of data types

A text names a data type exactly if it is the type's name once its padding is removed and the case
of its ASCII letters is folded. It names at most one. So the texts that name a type are its name in
any case of its letters between any blanks, and no other character than these letters and an
underscore is in such a text.
-/

namespace KeywordValues.DataType

variable {s : String} {t u : DataType}

theorem ofName?_name (t : DataType) : ofName? t.name = some t := by
  rcases t with k | k <;> cases k <;> decide

theorem name_injective (h : t.name = u.name) : t = u :=
  Option.some.inj ((ofName?_name t).symm.trans (h ▸ ofName?_name u))

theorem ofName?_eq_some_iff : ofName? s = some t ↔ Text.foldCase (Text.trim s) = t.name := by
  unfold ofName?
  constructor
  · intro h
    have ht := List.find?_some h
    exact (eq_of_beq ht).symm
  · intro h
    cases hf : all.find? fun u ↦ u.name == Text.foldCase (Text.trim s) with
    | none =>
        have ht := List.find?_eq_none.1 hf t (mem_all t)
        exact absurd (beq_iff_eq.2 h.symm) ht
    | some u =>
        have hu := List.find?_some hf
        rw [name_injective ((eq_of_beq hu).trans h)]

theorem ofName_eq_ok_iff : ofName s = .ok t ↔ Text.foldCase (Text.trim s) = t.name := by
  rw [← ofName?_eq_some_iff, ofName]
  split
  · rename_i u h
    rw [h, Except.ok.injEq, Option.some.injEq]
  · rename_i h
    simp [h]

theorem ofName_eq_error_iff {e : UnknownType} : ofName s = .error e ↔
    (∀ t : DataType, Text.foldCase (Text.trim s) ≠ t.name) ∧ e = ⟨Text.trim s⟩ := by
  simp only [Ne, ← ofName?_eq_some_iff, ofName]
  split
  · rename_i u h
    simp [h]
  · rename_i h
    simp [h, eq_comm]

/-! ## Padding and the case of letters -/

theorem foldCase_name (t : DataType) : Text.foldCase t.name = t.name := by
  rcases t with k | k <;> cases k <;> decide

theorem trim_name (t : DataType) : Text.trim t.name = t.name := by
  rcases t with k | k <;> cases k <;> decide

theorem isLower_or_eq_of_mem_name (t : DataType) :
    ∀ c ∈ t.name.toList, c.isLower = true ∨ c = '_' := by
  have hall : t.name.toList.all (fun c ↦ c.isLower || c == '_') = true := by
    rcases t with k | k <;> cases k <;> decide
  intro c hc
  have hchar : (c.isLower || c == '_') = true := List.all_eq_true.1 hall c hc
  rwa [Bool.or_eq_true, beq_iff_eq] at hchar

theorem ofName_name (t : DataType) : ofName t.name = .ok t := by
  rw [ofName_eq_ok_iff, trim_name, foldCase_name]

theorem ofName_congr {s' : String} (h : Text.trim s = Text.trim s') : ofName s = ofName s' := by
  rw [ofName, ofName, ofName?, ofName?, h]

theorem ofName_eq_ok_iff_caseVariant :
    ofName s = .ok t ↔ Text.CaseVariant t.name (Text.trim s) := by
  rw [ofName_eq_ok_iff, Text.caseVariant_iff, foldCase_name, eq_comm]

/-- The texts that name a type are its name in any case of its letters, between any blanks. -/
theorem ofName_eq_ok_iff_padded : ofName s = .ok t ↔
    ∃ p u q, Text.isBlankText p = true ∧ Text.isBlankText q = true ∧ s = p ++ u ++ q ∧
      Text.CaseVariant t.name u := by
  rw [ofName_eq_ok_iff_caseVariant]
  constructor
  · intro h
    obtain ⟨p, q, hp, hq, hs⟩ := (Text.trims_iff.2 (Eq.refl (Text.trim s))).padded
    exact ⟨p, Text.trim s, q, hp, hq, hs, h⟩
  · rintro ⟨p, u, q, hp, hq, rfl, h⟩
    have htrim : Text.CaseVariant (Text.trim t.name) (Text.trim u) := h.trim
    rwa [trim_name, ← Text.trim_append hp hq u] at htrim

/-- The type that a text names does not depend on the case of its letters. -/
theorem ofName_eq_ok_iff_of_caseVariant {s' : String} (h : Text.CaseVariant s s') :
    ofName s' = .ok t ↔ ofName s = .ok t := by
  rw [ofName_eq_ok_iff, ofName_eq_ok_iff, Text.caseVariant_iff.1 h.trim]

/-- Between its blanks, a text that names a type has ASCII letters and underscores only. -/
theorem isAlpha_or_eq_of_mem_trim (h : ofName s = .ok t) :
    ∀ c ∈ (Text.trim s).toList, c.isAlpha = true ∨ c = '_' := by
  intro c hc
  have hmem : c.toLower ∈ t.name.toList := by
    rw [← ofName_eq_ok_iff.1 h, Text.toList_foldCase]
    exact List.mem_map_of_mem hc
  cases hupper : c.isUpper with
  | true => exact .inl (Bool.or_eq_true_iff.2 (.inl hupper))
  | false =>
      rw [Text.toLower_eq_self hupper] at hmem
      exact (isLower_or_eq_of_mem_name t c hmem).imp_left fun hlower ↦
        Bool.or_eq_true_iff.2 (.inr hlower)

/-- The long s is the letter s in another case, but no ASCII letter. -/
example : ofName "\u017Ftring" = .error ⟨"\u017Ftring"⟩ := by decide

end KeywordValues.DataType
