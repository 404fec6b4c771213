import KeywordValues.Proofs.MergingDocuments

/-!
# Documents that have a name several times

A document that lists a name several times defines it as the last of these members says. What the
earlier ones say is not looked at, so it makes no difference whether they define keywords, and only
names that were bound before are reported as taken.
-/

namespace KeywordValues.Catalog

open NameMap (LastOf)

variable {c d : Catalog} {fields : NameMap Json} {ms : List (String × Json)} {text name : String}
  {e : CatalogError}

/-- The texts of objects are those that list members, and the last of each name count. -/
theorem isDocument_iff_lists :
    IsDocument text fields ↔ ∃ ms, Json.Lists text ms ∧ fields = .ofList ms :=
  Json.exists_read_iff_lists

theorem isDocument_ofList (h : Json.Lists text ms) : IsDocument text (.ofList ms) :=
  isDocument_iff_lists.2 ⟨ms, h, rfl⟩

theorem extendByText_of_lists_eq_ok_iff (h : Json.Lists text ms) : c.extendByText text = .ok d ↔
    (∀ m, LastOf ms m → ∃ type, c.Defines m type) ∧
      ∀ name type, d.typeOf name = .ok type ↔
        c.typeOf name = .ok type ∨ ∃ j, LastOf ms (name, j) ∧ Names j type := by
  simp only [extendByText_of_isDocument (isDocument_ofList h), extendByFields_eq_ok_iff,
    NameMap.mem_entries_ofList_iff]

theorem exists_extendByText_of_lists_eq_ok_iff (h : Json.Lists text ms) :
    (∃ d, c.extendByText text = .ok d) ↔ ∀ m, LastOf ms m → ∃ type, c.Defines m type := by
  simp only [extendByText_of_isDocument (isDocument_ofList h), exists_extendByFields_eq_ok_iff,
    NameMap.mem_entries_ofList_iff]

/-- A document is refused if a last member defines nothing, and then the catalog stays as it is. -/
theorem exists_perform_eq_error_iff (h : Json.Lists text ms) :
    (∃ e, c.perform (.extendByText text) = (c, .error e)) ↔
      ∃ m, LastOf ms m ∧ ¬ ∃ type, c.Defines m type := by
  have hperform : c.perform (.extendByText text) = c.inPlace (c.extendByText text) :=
    perform_eq_inPlace c _
  have haccept := exists_extendByText_of_lists_eq_ok_iff (c := c) h
  rw [hperform]
  cases hc : c.extendByText text with
  | ok d =>
      have hdefines := haccept.1 ⟨d, hc⟩
      refine iff_of_false (fun ⟨_, he⟩ ↦ nomatch he) ?_
      rintro ⟨m, hm, hnot⟩
      exact hnot (hdefines m hm)
  | error e =>
      have hfails : ¬ ∀ m, LastOf ms m → ∃ type, c.Defines m type := by
        intro hdefines
        obtain ⟨d, hd⟩ := haccept.2 hdefines
        cases hc.symm.trans hd
      obtain ⟨m, hm⟩ := Classical.not_forall.1 hfails
      exact iff_of_true ⟨e, rfl⟩ ⟨m, Classical.not_imp.1 hm⟩

/-- Only a name that was bound before is reported as taken. -/
theorem contains_of_extendByText_eq_duplicate (h : Json.Lists text ms)
    (hc : c.extendByText text = .error (.duplicate name)) : c.contains name = true := by
  rw [extendByText_of_isDocument (isDocument_ofList h), extendByFields_eq_error_iff] at hc
  obtain ⟨m, -, hfault, -⟩ := hc
  cases hfault with
  | duplicate type hn hnamed htaken => exact htaken

/-- A member whose name comes again may be left out. -/
theorem extendByText_of_overwritten {before behind : List (String × Json)} {m : String × Json}
    {other : String} (hm : m.1 ∈ behind.map (·.1)) (h : Json.Lists text (before ++ m :: behind))
    (ho : Json.Lists other (before ++ behind)) : c.extendByText text = c.extendByText other := by
  rw [extendByText_of_isDocument (isDocument_ofList h),
    extendByText_of_isDocument (isDocument_ofList ho), NameMap.ofList_append_cons hm]

/-- Of several members of a document with one name the last alone counts. The document is refused
exactly if such a last member defines no keyword, and then the catalog stays as it is. A name is
reported as taken only if it was bound before, and a member whose name comes again in the document
may be left out, whatever its value is. -/
theorem extendByText_of_lists (c : Catalog) (h : Json.Lists text ms) :
    (∀ d, c.extendByText text = .ok d ↔
      (∀ m, LastOf ms m → ∃ type, c.Defines m type) ∧
        ∀ name type, d.typeOf name = .ok type ↔
          c.typeOf name = .ok type ∨ ∃ j, LastOf ms (name, j) ∧ Names j type) ∧
    ((∃ e, c.perform (.extendByText text) = (c, .error e)) ↔
      ∃ m, LastOf ms m ∧ ¬ ∃ type, c.Defines m type) ∧
    (∀ name, c.extendByText text = .error (.duplicate name) → c.contains name = true) ∧
    ∀ before m behind other, ms = before ++ m :: behind → m.1 ∈ behind.map (·.1) →
      Json.Lists other (before ++ behind) → c.extendByText text = c.extendByText other := by
  refine ⟨fun d ↦ extendByText_of_lists_eq_ok_iff h, exists_perform_eq_error_iff h,
    fun name ↦ contains_of_extendByText_eq_duplicate h, ?_⟩
  rintro before m behind other rfl hm ho
  exact extendByText_of_overwritten hm h ho

/-- A name is bound to nothing first and to a type later on in one document. It is bound to the
type, as if the first member were not there. -/
theorem extendByText_of_lists_overwritten :
    let kept := [("kind", Json.string "string"), ("size", .string "integer")]
    let members := ("size", Json.null) :: kept
    let text := (Json.object members).print
    Json.Lists text members ∧ Json.Lists (Json.object kept).print kept ∧
      empty.extendByText text = empty.extendByText (Json.object kept).print ∧
      ∃ d, empty.extendByText text = .ok d ∧ d.typeOf "size" = .ok (.scalar .integer) := by
  intro kept members text
  have hkept : Json.Lists (Json.object kept).print kept :=
    Json.lists_print (.object (by simp [kept, Json.Plain.string]))
  have hmembers : Json.Lists text members :=
    Json.lists_print (.object (by simp [members, kept, Json.Plain.null, Json.Plain.string]))
  have hlast (m : String × Json) : LastOf members m ↔ m ∈ kept :=
    NameMap.mem_entries_ofList_iff.symm
  have hdefines (m : String × Json) (hm : LastOf members m) : ∃ type, empty.Defines m type := by
    rcases List.mem_cons.1 ((hlast m).1 hm) with rfl | hm
    · exact ⟨.scalar .string, ⟨_, rfl, rfl⟩, by decide, rfl⟩
    · obtain rfl := List.mem_singleton.1 hm
      exact ⟨.scalar .integer, ⟨_, rfl, rfl⟩, by decide, rfl⟩
  obtain ⟨hok, -, -, hleft⟩ := extendByText_of_lists empty hmembers
  obtain ⟨d, hd⟩ := (exists_extendByText_of_lists_eq_ok_iff hmembers).2 hdefines
  refine ⟨hmembers, hkept, hleft [] _ kept _ rfl (by decide) hkept, d, hd, ?_⟩
  exact (((hok d).1 hd).2 _ _).2 (.inr ⟨_, (hlast _).2 (.tail _ (.head _)), _, rfl, rfl⟩)

/-- A document that has one name twice, for two types, is accepted, and binds the name to the second
of them. -/
theorem ofText_repeated_name :
    let members := [("size", Json.string "string"), ("size", .string "integer")]
    let text := (Json.object members).print
    Json.Lists text members ∧ ¬ (members.map (·.1)).Nodup ∧
      ∃ d, ofText text = .ok d ∧ d.typeOf "size" = .ok (.scalar .integer) := by
  intro members text
  have hmembers : Json.Lists text members :=
    Json.lists_print (.object (by simp [members, Json.Plain.string]))
  have hlast (m : String × Json) : LastOf members m ↔ m ∈ [("size", Json.string "integer")] :=
    NameMap.mem_entries_ofList_iff.symm
  have hdefines (m : String × Json) (hm : LastOf members m) : ∃ type, empty.Defines m type := by
    obtain rfl := List.mem_singleton.1 ((hlast m).1 hm)
    exact ⟨.scalar .integer, ⟨_, rfl, rfl⟩, by decide, rfl⟩
  obtain ⟨d, hd⟩ := (exists_extendByText_of_lists_eq_ok_iff hmembers).2 hdefines
  have htypes := ((extendByText_of_lists_eq_ok_iff hmembers).1 hd).2
  exact ⟨hmembers, by decide, d, hd, (htypes _ _).2 (.inr ⟨_, (hlast _).2 (.head _), _, rfl, rfl⟩)⟩

end KeywordValues.Catalog
