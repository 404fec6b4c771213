import KeywordValues.Proofs.Files
import KeywordValues.Proofs.Json.Reader
import KeywordValues.Proofs.Merging

/-!
# Two ways to add a document

A document can be added to a catalog as it is, or it can be made a catalog of its own that is merged
then. The first way looks for taken names while it looks at the members, and the second after all of
them have defined keywords. Both accept the same documents and give the same catalog. What they
report can only differ where a name is taken and another member defines nothing.
-/

namespace KeywordValues.Catalog

variable {c d : Catalog} {fields : NameMap Json} {m : String × Json} {name text : String}
  {e : CatalogError}

/-! ## Definitions -/

/-- A member that defines a keyword in every catalog in which its name is free. -/
structure IsDefinition (m : String × Json) : Prop where
  names : ∃ type, Names m.2 type
  named : Text.trim m.1 ≠ ""

theorem exists_defines_iff :
    (∃ type, c.Defines m type) ↔ IsDefinition m ∧ c.contains m.1 = false := by
  constructor
  · rintro ⟨type, h⟩
    exact ⟨⟨⟨type, h.names⟩, h.named⟩, h.free⟩
  · rintro ⟨⟨⟨type, h⟩, hnamed⟩, hfree⟩
    exact ⟨type, h, hnamed, hfree⟩

theorem exists_defines_empty_iff : (∃ type, empty.Defines m type) ↔ IsDefinition m :=
  exists_defines_iff.trans (and_iff_left rfl)

/-- A fault is one in the empty catalog too, or it is that the name is taken. -/
theorem Fault.cases_empty (h : c.Fault m e) :
    empty.Fault m e ∨ e = .duplicate m.1 ∧ c.contains m.1 = true := by
  cases h with
  | unknownType hn => exact .inl (.unknownType hn)
  | emptyName type hn hblank => exact .inl (.emptyName type hn hblank)
  | duplicate type hn hnamed htaken => exact .inr ⟨rfl, htaken⟩

/-! ## Objects -/

theorem OfFields.contains_iff (h : d.OfFields fields) :
    d.contains name = true ↔ ∃ j, (name, j) ∈ fields.entries := by
  simp only [contains_iff_exists, ← typeOf_eq_ok_iff, h.typeOf_iff]
  constructor
  · rintro ⟨type, j, hj, -⟩
    exact ⟨j, hj⟩
  · rintro ⟨j, hj⟩
    obtain ⟨type, ht⟩ := h.defines _ hj
    exact ⟨type, j, hj, ht.names⟩

theorem exists_ofFields (h : ∀ m ∈ fields.entries, IsDefinition m) :
    ∃ d : Catalog, d.OfFields fields := by
  simp only [← extendByFields_empty_eq_ok_iff, exists_extendByFields_eq_ok_iff,
    exists_defines_empty_iff]
  exact h

/-- The members of an object are added exactly if their catalog is merged. -/
theorem extendByFields_eq_ok_iff_extend : c.extendByFields fields = .ok d ↔
    ∃ e : Catalog, e.OfFields fields ∧ c.extend e = .ok d := by
  simp only [extendByFields_eq_ok_iff, extend_eq_ok_iff, exists_defines_iff]
  constructor
  · rintro ⟨hdefines, htypes⟩
    obtain ⟨e, he⟩ := exists_ofFields fun m hm ↦ (hdefines m hm).1
    refine ⟨e, he, fun name hname ↦ ?_, fun name type ↦ by rw [htypes, he.typeOf_iff]⟩
    obtain ⟨j, hj⟩ := he.contains_iff.1 hname
    exact (hdefines _ hj).2
  · rintro ⟨e, he, hfree, htypes⟩
    refine ⟨fun m hm ↦ ⟨exists_defines_empty_iff.1 (he.defines m hm), ?_⟩,
      fun name type ↦ by rw [htypes, he.typeOf_iff]⟩
    exact hfree m.1 (he.contains_iff.2 ⟨m.2, hm⟩)

/-- An object is refused as it is by the empty catalog, or for a name that is taken. -/
theorem extendByFields_eq_error_cases (h : c.extendByFields fields = .error e) :
    empty.extendByFields fields = .error e ∨
      ∃ m ∈ fields.entries, e = .duplicate m.1 ∧ c.contains m.1 = true := by
  obtain ⟨m, hm, hfault, hbefore⟩ := extendByFields_eq_error_iff.1 h
  rcases hfault.cases_empty with hempty | htaken
  · refine .inl (extendByFields_eq_error_iff.2 ⟨m, hm, hempty, fun n hn hlt ↦ ?_⟩)
    exact exists_defines_empty_iff.2 (exists_defines_iff.1 (hbefore n hn hlt)).1
  · exact .inr ⟨m, hm, htaken⟩

/-- The first name in the order of bytes that an object has and a catalog has too. -/
structure LeastTaken (c : Catalog) (fields : NameMap Json) (name : String) : Prop where
  taken : (∃ j, (name, j) ∈ fields.entries) ∧ c.contains name = true
  least : ∀ m ∈ fields.entries, Text.Precedes m.1 name → c.contains m.1 = false

theorem leastTaken_of_firstShared (hd : d.OfFields fields) (h : c.FirstShared d name) :
    c.LeastTaken fields name where
  taken := ⟨hd.contains_iff.1 h.shared.2, h.shared.1⟩
  least m hm hlt := by
    have hshared := h.least m.1 hlt
    exact Bool.eq_false_iff.2 fun hc ↦ hshared ⟨hc, hd.contains_iff.2 ⟨m.2, hm⟩⟩

/-- Among definitions the first name that is taken is reported. -/
theorem extendByFields_of_leastTaken (hdefs : ∀ m ∈ fields.entries, IsDefinition m)
    (h : c.LeastTaken fields name) : c.extendByFields fields = .error (.duplicate name) := by
  obtain ⟨⟨j, hj⟩, htaken⟩ := h.taken
  obtain ⟨⟨type, htype⟩, hnamed⟩ := hdefs _ hj
  refine extendByFields_eq_error_iff.2 ⟨(name, j), hj, .duplicate type htype hnamed htaken, ?_⟩
  exact fun n hn hlt ↦ exists_defines_iff.2 ⟨hdefs n hn, h.least n hn hlt⟩

/-- Definitions of which some name is taken are refused both ways, for the first such name. -/
theorem exists_leastTaken (hdefs : ∀ m ∈ fields.entries, IsDefinition m)
    (htaken : ∃ m ∈ fields.entries, c.contains m.1 = true) :
    ∃ name d, c.LeastTaken fields name ∧ c.extendByFields fields = .error (.duplicate name) ∧
      d.OfFields fields ∧ c.extend d = .error (.duplicate name) := by
  obtain ⟨d, hd⟩ := exists_ofFields hdefs
  rcases extend_cases_of_shares c d with ⟨hdisjoint, -⟩ | ⟨name, hname, herror⟩
  · obtain ⟨m, hm, hc⟩ := htaken
    exact absurd ⟨hc, hd.contains_iff.2 ⟨m.2, hm⟩⟩ (hdisjoint m.1)
  · have hleast := leastTaken_of_firstShared hd hname
    exact ⟨name, d, hleast, extendByFields_of_leastTaken hdefs hleast, hd, herror⟩

/-! ## Documents -/

theorem extendByText_of_isDocument (h : IsDocument text fields) (c : Catalog) :
    c.extendByText text = c.extendByFields fields := by
  obtain ⟨j, hj, hf⟩ := h
  simp only [extendByText, extendByJson, hj, hf]

theorem ofText_eq_ok_iff (h : IsDocument text fields) :
    ofText text = .ok d ↔ d.OfFields fields := by
  rw [ofText, extendByText_of_isDocument h, extendByFields_empty_eq_ok_iff]

/-- A document with a member that defines nothing gives no catalog. -/
theorem exists_ofText_eq_error (hfields : IsDocument text fields)
    (h : ∃ m ∈ fields.entries, ¬ IsDefinition m) : ∃ e, ofText text = .error e := by
  cases ht : ofText text with
  | error e => exact ⟨e, rfl⟩
  | ok d =>
      obtain ⟨m, hm, hnot⟩ := h
      have hd : d.OfFields fields := (ofText_eq_ok_iff hfields).1 ht
      exact absurd (exists_defines_empty_iff.1 (hd.defines m hm)) hnot

/-- What is not the document of an object is refused by all catalogs in the same way. -/
theorem extendByText_of_not_isDocument (h : ¬ ∃ fields, IsDocument text fields) :
    ∃ e, ∀ c : Catalog, c.extendByText text = .error e := by
  cases hj : Json.read text with
  | error e => exact ⟨.invalid e, fun c ↦ by rw [extendByText, hj]⟩
  | ok j =>
      cases hf : j.fields? with
      | none => exact ⟨.notAnObject, fun c ↦ by simp only [extendByText, hj, extendByJson, hf]⟩
      | some fields => exact absurd ⟨fields, j, hj, hf⟩ h

theorem extendByText_eq_ok_iff_extend : c.extendByText text = .ok d ↔
    ∃ e, ofText text = .ok e ∧ c.extend e = .ok d := by
  by_cases h : ∃ fields, IsDocument text fields
  · obtain ⟨fields, hfields⟩ := h
    simp only [extendByText_of_isDocument hfields, ofText_eq_ok_iff hfields,
      extendByFields_eq_ok_iff_extend]
  · obtain ⟨e, he⟩ := extendByText_of_not_isDocument h
    simp [ofText, he]

/-- A document that gives no catalog is refused for the same reason, or for a name that is taken. -/
theorem extendByText_of_ofText_eq_error (hfields : IsDocument text fields)
    (h : ofText text = .error e) : c.extendByText text = .error e ∨
      ∃ m ∈ fields.entries, c.extendByText text = .error (.duplicate m.1) ∧
        c.contains m.1 = true := by
  cases hc : c.extendByText text with
  | ok d =>
      obtain ⟨d', hd', -⟩ := extendByText_eq_ok_iff_extend.1 hc
      cases hd'.symm.trans h
  | error e' =>
      rw [ofText, extendByText_of_isDocument hfields] at h
      rw [extendByText_of_isDocument hfields] at hc
      rcases extendByFields_eq_error_cases hc with hempty | ⟨m, hm, rfl, htaken⟩
      · exact .inl (hempty.symm.trans h)
      · exact .inr ⟨m, hm, rfl, htaken⟩

/-! ## In place -/

/-- Makes a catalog of a document and merges it in place. The keywords of the merged catalog are
visited in no particular order. -/
def performMerge (c : Catalog) (text : String) (visit : Catalog → List Keyword)
    (all : ∀ d, (visit d).Perm d.keywords) : Catalog × Except CatalogError Unit :=
  match ofText text with
  | .error e => (c, .error e)
  | .ok d => c.perform (.extend d (visit d) (all d))

theorem performMerge_eq_inPlace (c : Catalog) (text : String) (visit : Catalog → List Keyword)
    (all : ∀ d, (visit d).Perm d.keywords) :
    c.performMerge text visit all = c.inPlace ((ofText text).bind c.extend) := by
  unfold performMerge
  cases ofText text with
  | error e => rfl
  | ok d => exact perform_eq_inPlace c _

/-- A document extends a catalog exactly if it gives a catalog of its own that can be merged, and to
the same catalog. A failure leaves the catalog as it was either way, whatever the order in which the
keywords are visited. What is not the document of an object is refused for the same reason. So is an
object with a member that defines nothing, if none of its names is taken; and if only names are
taken, the first of these is reported. -/
theorem extendByText_agrees_with_extend (c : Catalog) (text : String) :
    (∀ d, c.extendByText text = .ok d ↔ ∃ e, ofText text = .ok e ∧ c.extend e = .ok d) ∧
    (∀ visit all, c.perform (.extendByText text) = c.inPlace (c.extendByText text) ∧
      c.performMerge text visit all = c.inPlace ((ofText text).bind c.extend)) ∧
    (∀ e, Json.read text = .error e →
      c.extendByText text = .error (.invalid e) ∧ ofText text = .error (.invalid e)) ∧
    (∀ j, Json.read text = .ok j → j.fields? = none →
      c.extendByText text = .error .notAnObject ∧ ofText text = .error .notAnObject) ∧
    ∀ fields, IsDocument text fields →
      (∀ e, ofText text = .error e → c.extendByText text = .error e ∨
        ∃ m ∈ fields.entries, c.extendByText text = .error (.duplicate m.1) ∧
          c.contains m.1 = true) ∧
      ((∃ m ∈ fields.entries, ¬ IsDefinition m) →
        (∀ m ∈ fields.entries, c.contains m.1 = false) →
        ∃ e, c.extendByText text = .error e ∧ ofText text = .error e) ∧
      ((∀ m ∈ fields.entries, IsDefinition m) →
        (∃ m ∈ fields.entries, c.contains m.1 = true) →
        ∃ name d, c.LeastTaken fields name ∧ c.extendByText text = .error (.duplicate name) ∧
          ofText text = .ok d ∧ c.extend d = .error (.duplicate name)) := by
  refine ⟨fun d ↦ extendByText_eq_ok_iff_extend, fun visit all ↦ ⟨perform_eq_inPlace c _,
    performMerge_eq_inPlace c text visit all⟩, fun e he ↦ ?_, fun j hj hf ↦ ?_,
    fun fields hfields ↦ ⟨fun e ↦ extendByText_of_ofText_eq_error hfields,
      fun hnone hfree ↦ ?_, fun hdefs htaken ↦ ?_⟩⟩
  · simp only [ofText, extendByText, he, and_self]
  · simp only [ofText, extendByText, extendByJson, hj, hf, and_self]
  · obtain ⟨e, he⟩ := exists_ofText_eq_error hfields hnone
    rcases extendByText_of_ofText_eq_error hfields he with hc | ⟨m, hm, -, htaken⟩
    · exact ⟨e, hc, he⟩
    · cases (hfree m hm).symm.trans htaken
  · obtain ⟨name, d, hleast, hc, hd, herror⟩ := exists_leastTaken hdefs htaken
    exact ⟨name, d, hleast, (extendByText_of_isDocument hfields c).trans hc,
      (ofText_eq_ok_iff hfields).2 hd, herror⟩

/-- Both names of a document are taken, and the first of them is reported both ways. Another
document has a name of its own that it binds to nothing, which is reported both ways as well. -/
theorem extendByText_agrees_with_extend_two_documents :
    let c := (empty.insert ⟨"kind", .scalar .string, rfl⟩).insert ⟨"title", .scalar .string, rfl⟩
    let members := [("kind", Json.string "integer"), ("title", .string "string")]
    let text := (Json.object members).print
    let unbound := (Json.object [("size", .null)]).print
    (∃ d, ofText text = .ok d ∧ c.extend d = .error (.duplicate "kind") ∧
      c.extendByText text = .error (.duplicate "kind")) ∧
      ∃ e, ofText unbound = .error e ∧ c.extendByText unbound = .error e := by
  intro c members text unbound
  have htext : IsDocument text (.ofList members) :=
    ⟨_, Json.read_print (.object (by decide) (by simp [members, Json.Exact.string])), rfl⟩
  have hunbound : IsDocument unbound (.ofList [("size", .null)]) :=
    ⟨_, Json.read_print (.object (by decide) (by simp [Json.Exact.null])), rfl⟩
  have hdefs : ∀ m ∈ members, IsDefinition m := List.forall_mem_cons.2
    ⟨⟨⟨.scalar .integer, _, rfl, rfl⟩, by decide⟩, List.forall_mem_cons.2
      ⟨⟨⟨.scalar .string, _, rfl, rfl⟩, by decide⟩, nofun⟩⟩
  obtain ⟨-, -, -, -, hdocument⟩ := extendByText_agrees_with_extend c text
  obtain ⟨name, d, hleast, hc, hd, herror⟩ :=
    (hdocument _ htext).2.2 hdefs ⟨_, .head _, rfl⟩
  have hname : name = "kind" := by
    obtain ⟨⟨j, hj⟩, -⟩ := hleast.taken
    have hmem : (name, j) ∈ members := hj
    rcases List.mem_cons.1 hmem with h | h
    · exact congrArg Prod.fst h
    · obtain ⟨rfl, -⟩ := Prod.mk.inj (List.mem_singleton.1 h)
      cases hleast.least _ (.head _) (Text.precedes_iff.2 (by decide))
  subst hname
  obtain ⟨-, -, -, -, hdocument'⟩ := extendByText_agrees_with_extend c unbound
  obtain ⟨e, he, he'⟩ := (hdocument' _ hunbound).2.1
    ⟨_, .head _, fun h ↦ h.names.elim fun type ⟨_, hs, _⟩ ↦ nomatch hs⟩
    (List.forall_mem_cons.2 ⟨rfl, nofun⟩)
  exact ⟨⟨d, hd, herror, hc⟩, e, he', he⟩

end KeywordValues.Catalog
