import KeywordValues.Proofs.Collect

/-!
# Loading with an extended catalog

A catalog that is extended by another keeps its types, so a member has the outcome that it has with
the catalog which knows its name. The members that only the other catalog knows were skipped, and
get a value or fail. So what was loaded stays as it is, and what is added comes from the names that
were skipped.
-/

namespace KeywordValues.Catalog

variable {c d e : Catalog} {strict : Bool} {m : String × Json} {ms : List (String × Json)}

/-! ## One member -/

theorem outcome_extend_left (h : c.extend d = .ok e) (hd : d.contains m.1 = false) :
    e.outcome strict m = c.outcome strict m :=
  outcome_congr (get?_extend_left h hd)

theorem outcome_extend_right (h : c.extend d = .ok e) (hd : d.contains m.1 = true) :
    e.outcome strict m = d.outcome strict m :=
  outcome_congr (get?_extend_right h hd)

/-- A member that the other catalog knows was skipped. -/
theorem outcome_eq_skipped_of_extend (h : c.extend d = .ok e) (hd : d.contains m.1 = true) :
    c.outcome false m = .skipped :=
  outcome_eq_skipped_iff.2 ⟨(extend_eq_ok_iff.1 h).1 m.1 hd, rfl⟩

/-- A member that does not fail with the extended catalog does not fail without the extension. -/
theorem outcome_ne_failed_of_extend (h : c.extend d = .ok e)
    (he : ∀ x, e.outcome false m ≠ .failed x) (x : MemberError) :
    c.outcome false m ≠ .failed x := by
  by_cases hd : d.contains m.1 = true
  · rw [outcome_eq_skipped_of_extend h hd]
    nofun
  · rw [← outcome_extend_left h (Bool.eq_false_iff.2 hd)]
    exact he x

/-! ## All members -/

theorem typed_extend (h : c.extend d = .ok e) :
    c.typed false ms = (e.typed false ms).filter fun x ↦ c.contains x.1 := by
  rw [typed, typed, labelled, labelled, List.filter_filterMap]
  refine List.filterMap_congr fun m _ ↦ ?_
  by_cases hd : d.contains m.1 = true
  · -- the member is skipped, and the value that it gets later has no name of the catalog
    have hc : c.contains m.1 = false := (extend_eq_ok_iff.1 h).1 m.1 hd
    rw [outcome_eq_skipped_of_extend h hd]
    cases (e.outcome false m).value? <;> simp [Outcome.value?, Option.filter, hc]
  · rw [outcome_extend_left h (Bool.eq_false_iff.2 hd)]
    cases hx : c.outcome false m with
    | typed v => simp [Outcome.value?, Option.filter, contains_of_outcome_eq_typed hx]
    | failed x => rfl
    | skipped => rfl

theorem skipped_extend (h : c.extend d = .ok e) :
    e.skipped false ms = (c.skipped false ms).filter fun name ↦ !d.contains name := by
  rw [skipped, skipped, List.filter_map, List.filter_filter]
  refine congrArg _ (List.filter_congr fun m _ ↦ ?_)
  by_cases hd : d.contains m.1 = true
  · -- what the other catalog knows is not skipped any more
    have he : e.outcome false m ≠ .skipped := by
      rw [outcome_extend_right h hd, Ne, outcome_eq_skipped_iff, hd]
      exact fun hskip ↦ Bool.noConfusion hskip.1
    have hs : (e.outcome false m).isSkipped = false :=
      Bool.eq_false_iff.2 (mt Outcome.isSkipped_iff.1 he)
    simp [hs, hd]
  · simp [outcome_extend_left h (Bool.eq_false_iff.2 hd), hd]

theorem loaded_congr {fields : NameMap Json}
    (h : ∀ m ∈ fields.entries, c.outcome strict m = d.outcome strict m) :
    c.loaded strict fields = d.loaded strict fields := by
  have htyped : c.typed strict fields.entries = d.typed strict fields.entries :=
    List.filterMap_congr fun m hm ↦ by simp only [h m hm]
  have hskipped : c.skipped strict fields.entries = d.skipped strict fields.entries :=
    congrArg _ (List.filter_congr fun m hm ↦ by simp only [h m hm])
  rw [loaded, loaded, LoadedSchema.mk.injEq]
  exact ⟨NameMap.ext_entries htyped, hskipped⟩

/-! ## Schemas -/

/-- Extending a catalog refines loading. What is loaded with the extended catalog is loaded without
the extension, less the values of the names in it, which are skipped. If all members that the
extension knows have values of their types, then what was loaded can be loaded with it. And a strict
loading, which leaves no member to the extension, gives the same result with it. -/
theorem loadJson_extend (h : c.extend d = .ok e) (max : Nat) (schema : Json) :
    (∀ l', (e.loadJson ⟨false, false, max⟩ schema).result = .ok l' →
      ∃ l, (c.loadJson ⟨false, false, max⟩ schema).result = .ok l ∧
        l.toList = (l'.toList.filter fun x ↦ c.contains x.1) ∧
        l'.skipped = l.skipped.filter fun name ↦ !d.contains name) ∧
    (∀ l, (c.loadJson ⟨false, false, max⟩ schema).result = .ok l →
      (∀ fields, schema.fields? = some fields → ∀ m ∈ fields.entries, ∀ type,
        d.typeOf m.1 = .ok type →
          ∃ node v, Node.ofJson m.2 = .ok node ∧ type.convert node = .ok v) →
      ∃ l', (e.loadJson ⟨false, false, max⟩ schema).result = .ok l') ∧
    (∀ l, (c.loadJson ⟨true, false, max⟩ schema).result = .ok l →
      (e.loadJson ⟨true, false, max⟩ schema).result = .ok l) := by
  have hok (a : Catalog) (strict : Bool) (l : LoadedSchema) :
      (a.loadJson ⟨strict, false, max⟩ schema).result = .ok l ↔
        ∃ fields, schema.fields? = some fields ∧
          (∀ m ∈ fields.entries, ∀ x, a.outcome strict m ≠ .failed x) ∧
          l = a.loaded strict fields :=
    loadJson_eq_ok_iff (.inl rfl)
  simp only [hok]
  refine ⟨?_, ?_, ?_⟩
  · rintro _ ⟨fields, hs, he, rfl⟩
    have hc : ∀ m ∈ fields.entries, ∀ x, c.outcome false m ≠ .failed x := fun m hm ↦
      outcome_ne_failed_of_extend h (he m hm)
    exact ⟨_, ⟨fields, hs, hc, rfl⟩, typed_extend h, skipped_extend h⟩
  · rintro _ ⟨fields, hs, hc, rfl⟩ hd
    refine ⟨_, fields, hs, fun m hm x ↦ ?_, rfl⟩
    by_cases hm' : d.contains m.1 = true
    · obtain ⟨type, ht⟩ := contains_iff_exists.1 hm'
      obtain ⟨node, v, hn, hv⟩ := hd fields hs m hm type (typeOf_eq_ok_iff.2 ht)
      obtain ⟨w, hw⟩ : ∃ w, d.outcome false m = .typed w :=
        exists_outcome_eq_typed_iff.2 ⟨type, node, v, typeOf_eq_ok_iff.2 ht, hn, hv⟩
      rw [outcome_extend_right h hm', hw]
      nofun
    · rw [outcome_extend_left h (Bool.eq_false_iff.2 hm')]
      exact hc m hm x
  · rintro _ ⟨fields, hs, hc, rfl⟩
    have hsame : ∀ m ∈ fields.entries, e.outcome true m = c.outcome true m := by
      intro m hm
      refine outcome_extend_left h (Bool.eq_false_iff.2 fun hd ↦ ?_)
      -- a member that only the extension knows is refused by the strict loading
      exact nomatch strict_eq_false (hc m hm) ((extend_eq_ok_iff.1 h).1 m.1 hd)
    exact ⟨fields, hs, fun m hm ↦ hsame m hm ▸ hc m hm, (loaded_congr hsame).symm⟩

/-- Of three members one is known, one becomes known by the extension and one stays unknown. The
value of the first is the same with the extension and without it. -/
theorem loadJson_extend_three_members :
    let c := empty.insert ⟨"title", .scalar .string, rfl⟩
    let d := empty.insert ⟨"kind", .array .integer, rfl⟩
    let e := c.insert ⟨"kind", .array .integer, rfl⟩
    let schema := Json.object [("title", .string "a"), ("other", .null), ("kind", .ofInt64 7)]
    let title := ("title", TypedValue.scalar .string "a")
    let kind := ("kind", TypedValue.array .integer [7])
    let l' : LoadedSchema := ⟨.ofList [kind, title], ["other"]⟩
    c.extend d = .ok e ∧ (e.loadJson ⟨false, false, 8⟩ schema).result = .ok l' ∧
      ∃ l, (c.loadJson ⟨false, false, 8⟩ schema).result = .ok l ∧ l.toList = [title] ∧
        ["other"] = l.skipped.filter fun name ↦ !d.contains name := by
  intro c d e schema title kind l'
  have h : c.extend d = .ok e := rfl
  have hl' : (e.loadJson ⟨false, false, 8⟩ schema).result = .ok l' := rfl
  have hordered : [kind, title].Pairwise (·.1 < ·.1) :=
    List.pairwise_pair.2 (show "kind" < "title" by decide)
  have hentries : l'.toList = [kind, title] := congrArg _ (NameMap.ofList_eq hordered)
  have hkind : ¬ c.contains kind.1 = true := by decide
  have htitle : c.contains title.1 = true := by decide
  have hfilter : (l'.toList.filter fun x ↦ c.contains x.1) = [title] := by
    simp [hentries, hkind, htitle]
  obtain ⟨l, hl, hlist, hskipped⟩ := (loadJson_extend h 8 schema).1 l' hl'
  exact ⟨h, hl', l, hl, hlist.trans hfilter, hskipped⟩

end KeywordValues.Catalog
