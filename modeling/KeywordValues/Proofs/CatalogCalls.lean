import KeywordValues.Proofs.CatalogDocument

/-!
# Calls that change a catalog in place

A call registers its keywords one after the other, so a call that failed half way would leave some
of them behind. None does: what is looked at before the first keyword is registered is enough for
all of them. Hence a call adds all that it binds or changes nothing, and over a sequence of calls a
name that is bound keeps its type.
-/

namespace KeywordValues.Catalog

variable {c d : Catalog} {name : String} {type : DataType} {ks : List Keyword}

/-! ## Calls -/

/-- Registers keywords in place, up to the first that is refused. Those before it stay. -/
def commit (c : Catalog) : List Keyword → Catalog × Except CatalogError Unit
  | [] => (c, .ok ())
  | k :: ks =>
      match c.register k with
      | .ok d => d.commit ks
      | .error e => (c, .error e)

/-- A call on a catalog. The keywords of the other catalog are visited in no particular order. -/
inductive Call where
  | register (name : String) (type : DataType)
  | extend (other : Catalog) (visited : List Keyword) (all : visited.Perm other.keywords)
  | extendByText (text : String)

/-- The catalog that a call leaves, and its answer. -/
def perform (c : Catalog) : Call → Catalog × Except CatalogError Unit
  | .register name type =>
      match Keyword.ofName? name type with
      | none => (c, .error .emptyName)
      | some k => c.commit [k]
  | .extend other visited _ =>
      match other.names.find? c.contains with
      | some name => (c, .error (.duplicate name))
      | none => c.commit visited
  | .extendByText text =>
      match c.prepare text with
      | .error e => (c, .error e)
      | .ok ks => c.commit ks

/-- The catalog that a call gives without a change in place. -/
def apply (c : Catalog) : Call → Except CatalogError Catalog
  | .register name type =>
      match Keyword.ofName? name type with
      | none => .error .emptyName
      | some k => c.register k
  | .extend other _ _ => c.extend other
  | .extendByText text => c.extendByText text

/-- The catalog that a sequence of calls leaves, whatever their answers are. -/
def after (c : Catalog) (calls : List Call) : Catalog :=
  calls.foldl (fun c call ↦ (c.perform call).1) c

/-- The calls of a sequence that succeed. -/
def accepted (c : Catalog) : List Call → List Call
  | [] => []
  | call :: calls =>
      match c.perform call with
      | (d, .ok ()) => call :: d.accepted calls
      | (d, .error _) => d.accepted calls

/-! ## What calls ask for -/

namespace Call

/-- The names that a call is to bind, and their types. -/
def Binds : Call → String → DataType → Prop
  | .register n t, name, type => n = name ∧ t = type
  | .extend other _ _, name, type => other.typeOf name = .ok type
  | .extendByText text, name, type =>
      ∃ fields j, IsDocument text fields ∧ (name, j) ∈ fields.entries ∧
        DataType.ofName (typeText j) = .ok type

/-- A text has to be the document of an object whose members all name types. -/
def WellFormed : Call → Prop
  | .extendByText text =>
      ∃ fields, IsDocument text fields ∧
        ∀ m ∈ fields.entries, ∃ type, DataType.ofName (typeText m.2) = .ok type
  | _ => True

/-- A call that a catalog has to accept. -/
structure Acceptable (call : Call) (c : Catalog) : Prop where
  wellFormed : call.WellFormed
  named : ∀ name type, call.Binds name type → Text.trim name ≠ ""
  free : ∀ name type, call.Binds name type → c.contains name = false

end Call

/-! ## Second phases -/

theorem commit_of_admits (h : c.Admits ks) : c.commit ks = (c.insertAll ks, .ok ()) := by
  induction ks generalizing c with
  | nil => rfl
  | cons k ks ih =>
      rw [commit, h.head]
      exact ih h.tail

/-- The keywords of another catalog can be registered in any order, if none of their names is
taken. -/
theorem commit_of_find?_eq_none (hp : ks.Perm d.keywords) (h : d.names.find? c.contains = none) :
    c.commit ks = (c.insertAll ks, .ok ()) :=
  commit_of_admits ((admits_keywords_of_find?_eq_none h).perm hp)

theorem commit_of_mapM_define {fields : NameMap Json} (h : fields.entries.mapM c.define = .ok ks) :
    c.commit ks = (c.insertAll ks, .ok ()) :=
  commit_of_admits (admits_of_mapM_define h)

/-! ## One call -/

variable {call : Call}

/-- A call adds keywords to a catalog. -/
structure Adds (c : Catalog) (call : Call) (ks : List Keyword) : Prop where
  wellFormed : call.WellFormed
  admits : c.Admits ks
  binds : ∀ name type, (∃ k ∈ ks, k.name = name ∧ k.dataType = type) ↔ call.Binds name type
  apply_eq : c.apply call = .ok (c.insertAll ks)
  perform_eq : c.perform call = (c.insertAll ks, .ok ())

/-- A call is refused, and the catalog is as it was. -/
structure Refuses (c : Catalog) (call : Call) (e : CatalogError) : Prop where
  notAcceptable : ¬ call.Acceptable c
  apply_eq : c.apply call = .error e
  perform_eq : c.perform call = (c, .error e)

theorem Adds.acceptable (h : c.Adds call ks) : call.Acceptable c where
  wellFormed := h.wellFormed
  named name type hb := by
    obtain ⟨k, -, rfl, -⟩ := (h.binds name type).2 hb
    exact k.trim_name_ne_empty
  free name type hb := by
    obtain ⟨k, hk, rfl, -⟩ := (h.binds name type).2 hb
    exact h.admits.free k hk

theorem register_cases (c : Catalog) (name : String) (type : DataType) :
    (∃ ks, c.Adds (.register name type) ks) ∨ ∃ e, c.Refuses (.register name type) e := by
  cases hk : Keyword.ofName? name type with
  | none =>
      refine .inr ⟨.emptyName, fun h ↦ h.named name type ⟨rfl, rfl⟩ ?_, ?_, ?_⟩
      · exact Text.trim_eq_empty_iff.2 (Keyword.ofName?_eq_none_iff.1 hk)
      · rw [apply, hk]
      · rw [perform, hk]
  | some k =>
      obtain ⟨rfl, rfl⟩ := Keyword.ofName?_eq_some_iff.1 hk
      by_cases hc : c.contains k.name = true
      · have hr : c.register k = .error (.duplicate k.name) := if_pos hc
        refine .inr ⟨.duplicate k.name, fun h ↦ ?_, ?_, ?_⟩
        · cases hc.symm.trans (h.free k.name k.dataType ⟨rfl, rfl⟩)
        · rw [apply, hk]
          exact hr
        · rw [perform, hk]
          simp only [commit, hr]
      · have ha : c.Admits [k] := ⟨by simpa using hc, by simp⟩
        refine .inl ⟨[k], trivial, ha, fun name type ↦ by simp [Call.Binds], ?_, ?_⟩
        · rw [apply, hk]
          exact ha.head
        · rw [perform, hk]
          exact commit_of_admits ha

theorem extend_cases (c : Catalog) {other : Catalog} {visited : List Keyword}
    (hp : visited.Perm other.keywords) :
    (∃ ks, c.Adds (.extend other visited hp) ks) ∨ ∃ e, c.Refuses (.extend other visited hp) e := by
  cases hf : other.names.find? c.contains with
  | some name =>
      refine .inr ⟨.duplicate name, fun h ↦ ?_, ?_, ?_⟩
      · have hn : other.contains name = true := mem_names_iff.1 (List.mem_of_find?_eq_some hf)
        obtain ⟨type, ht⟩ := contains_iff_exists.1 hn
        cases (List.find?_some hf).symm.trans (h.free name type (typeOf_eq_ok_iff.2 ht))
      · rw [apply, extend, hf]
      · rw [perform, hf]
  | none =>
      have ha : c.Admits other.keywords := admits_keywords_of_find?_eq_none hf
      refine .inl ⟨visited, trivial, ha.perm hp, fun name type ↦ ?_, ?_, ?_⟩
      · simp only [hp.mem_iff, exists_mem_keywords_iff, Call.Binds, typeOf_eq_ok_iff]
      · rw [apply, extend, hf, insertAll_eq_of_perm ha hp]
        exact registerAll_eq_ok ha
      · rw [perform, hf]
        exact commit_of_find?_eq_none hp hf

theorem extendByText_cases (c : Catalog) (text : String) :
    (∃ ks, c.Adds (.extendByText text) ks) ∨ ∃ e, c.Refuses (.extendByText text) e := by
  cases hp : c.prepare text with
  | error e =>
      refine .inr ⟨e, fun h ↦ ?_, extendByText_of_prepare_eq_error hp, ?_⟩
      · -- an acceptable document defines a keyword by each of its members, so it is prepared
        obtain ⟨fields, hd, ht⟩ := h.wellFormed
        have hdefine : ∀ m ∈ fields.entries, ∃ k, c.define m = .ok k := by
          intro m hm
          obtain ⟨type, hm'⟩ := ht m hm
          have hb : (Call.extendByText text).Binds m.1 type := ⟨fields, m.2, hd, hm, hm'⟩
          refine exists_define_eq_ok_iff.2 ⟨⟨type, hm'⟩, ?_, h.free _ _ hb⟩
          exact Bool.eq_false_iff.2 (mt Text.trim_eq_empty_iff.2 (h.named _ _ hb))
        obtain ⟨ks, hks⟩ := exists_mapM_eq_ok_iff.2 hdefine
        cases hp.symm.trans (prepare_eq_ok_iff.2 ⟨fields, hd, hks⟩)
      · rw [perform, hp]
  | ok ks =>
      obtain ⟨fields, hd, hm⟩ := prepare_eq_ok_iff.1 hp
      refine .inl ⟨ks, ⟨fields, hd, fun m hm' ↦ ?_⟩, admits_of_mapM_define hm,
        fun name type ↦ ?_, ?_, ?_⟩
      · exact (exists_define_eq_ok_iff.1 (exists_mapM_eq_ok_iff.1 ⟨ks, hm⟩ m hm')).1
      · rw [exists_mem_iff_of_mapM_define hm]
        constructor
        · rintro ⟨j, hj, ht⟩
          exact ⟨fields, j, hd, hj, ht⟩
        · rintro ⟨fields', j, hd', hj, ht⟩
          cases hd.unique hd'
          exact ⟨j, hj, ht⟩
      · refine (extendByText_of_prepare_eq_ok hp).trans ?_
        exact registerAll_eq_ok (admits_of_mapM_define hm)
      · rw [perform, hp]
        exact commit_of_mapM_define hm

/-- What a call can do. -/
theorem perform_cases (c : Catalog) (call : Call) :
    (∃ ks, c.Adds call ks) ∨ ∃ e, c.Refuses call e := by
  cases call with
  | register name type => exact register_cases c name type
  | extend other visited all => exact extend_cases c all
  | extendByText text => exact extendByText_cases c text

/-- What is left in place of a catalog, and the answer. Without a result the catalog stays. -/
def inPlace (c : Catalog) : Except CatalogError Catalog → Catalog × Except CatalogError Unit
  | .ok d => (d, .ok ())
  | .error e => (c, .error e)

/-- A call leaves what it would make of the catalog, or the catalog itself. -/
theorem perform_eq_inPlace (c : Catalog) (call : Call) :
    c.perform call = c.inPlace (c.apply call) := by
  rcases perform_cases c call with ⟨ks, h⟩ | ⟨e, h⟩
  · rw [h.perform_eq, h.apply_eq, inPlace]
  · rw [h.perform_eq, h.apply_eq, inPlace]

theorem perform_eq_ok_iff : (c.perform call).2 = .ok () ↔ call.Acceptable c := by
  rcases perform_cases c call with ⟨ks, h⟩ | ⟨e, h⟩
  · simp [h.perform_eq, h.acceptable]
  · simp [h.perform_eq, h.notAcceptable]

theorem eq_of_perform_eq_error {e : CatalogError} (he : (c.perform call).2 = .error e) :
    (c.perform call).1 = c ∧ c.apply call = .error e := by
  rcases perform_cases c call with ⟨ks, h⟩ | ⟨e', h⟩
  · rw [h.perform_eq] at he
    cases he
  · rw [h.perform_eq] at he ⊢
    cases he
    exact ⟨rfl, h.apply_eq⟩

/-- A call that succeeds adds what it binds, and nothing else. -/
theorem typeOf_of_perform_eq_ok (hok : (c.perform call).2 = .ok ()) :
    c.apply call = .ok (c.perform call).1 ∧ ∀ name type,
      (c.perform call).1.typeOf name = .ok type ↔
        call.Binds name type ∨ c.typeOf name = .ok type := by
  rcases perform_cases c call with ⟨ks, h⟩ | ⟨e, h⟩
  · rw [h.perform_eq]
    refine ⟨h.apply_eq, fun name type ↦ ?_⟩
    rw [typeOf_eq_ok_iff, types_insertAll_iff h.admits, h.binds, typeOf_eq_ok_iff]
  · rw [h.perform_eq] at hok
    cases hok

/-! ## Sequences of calls -/

/-- A call keeps the type of every name, whatever its answer is. -/
theorem typeOf_perform (call : Call) (h : c.typeOf name = .ok type) :
    (c.perform call).1.typeOf name = .ok type := by
  cases ha : (c.perform call).2 with
  | error e => rwa [(eq_of_perform_eq_error ha).1]
  | ok => exact ((typeOf_of_perform_eq_ok ha).2 name type).2 (.inr h)

theorem typeOf_after (calls : List Call) (h : c.typeOf name = .ok type) :
    (c.after calls).typeOf name = .ok type := by
  induction calls generalizing c with
  | nil => exact h
  | cons call calls ih => exact ih (typeOf_perform call h)

/-- What is bound after a sequence of calls was bound before, or is bound by a call that
succeeds. -/
theorem typeOf_after_iff {calls : List Call} : (c.after calls).typeOf name = .ok type ↔
    c.typeOf name = .ok type ∨ ∃ call ∈ c.accepted calls, call.Binds name type := by
  induction calls generalizing c with
  | nil => simp [after, accepted]
  | cons call calls ih =>
      have hc : c.after (call :: calls) = (c.perform call).1.after calls := rfl
      rw [hc, ih]
      -- only a call that succeeds is listed, and only such a call binds anything
      rcases perform_cases c call with ⟨ks, h⟩ | ⟨e, h⟩
      · have hd := (typeOf_of_perform_eq_ok (by rw [h.perform_eq])).2 name type
        rw [hd, accepted, h.perform_eq]
        simp only [List.mem_cons, exists_eq_or_imp, or_assoc, or_left_comm]
      · rw [accepted, h.perform_eq]

theorem after_map_register (h : c.Admits ks) :
    c.after (ks.map fun k ↦ .register k.name k.dataType) = c.insertAll ks := by
  induction ks generalizing c with
  | nil => rfl
  | cons k ks ih =>
      have hk : c.perform (.register k.name k.dataType) = c.commit [k] := by
        rw [perform, Keyword.ofName?_eq_some_iff.2 ⟨rfl, rfl⟩]
      have hc : (c.perform (.register k.name k.dataType)).1 = c.insert k := by
        rw [hk, commit, h.head]
        rfl
      rw [List.map_cons, after, List.foldl_cons, hc]
      exact ih h.tail

/-- Every catalog is reached from the empty one by registering its keywords. -/
theorem exists_after_empty (c : Catalog) : ∃ calls, empty.after calls = c := by
  have ha : empty.Admits c.keywords :=
    admits_keywords_of_find?_eq_none (List.find?_eq_none.2 fun _ _ ↦ Bool.false_ne_true)
  refine ⟨_, (after_map_register ha).trans (ext_types fun name ↦ Option.ext fun type ↦ ?_)⟩
  rw [types_insertAll_iff ha, exists_mem_keywords_iff]
  exact or_iff_left nofun

/-! ## Listings -/

/-- What a catalog lists and what it answers agree. -/
structure Coherent (c : Catalog) : Prop where
  /-- The keyword of a name has that name, which is not blank. -/
  keyed : ∀ name k, c.get? name = some k → k.name = name ∧ Text.trim name ≠ ""
  /-- The names are listed in the order of their bytes. -/
  ascending : c.names.Pairwise Text.Precedes
  /-- The keywords are those of the names, in the order of the names. -/
  listed : c.names.map c.get? = c.keywords.map some
  size_eq : c.size = c.names.length
  contains_iff : ∀ name, c.contains name = true ↔ name ∈ c.names
  /-- A name is found exactly if it is listed, and then its type is that of its keyword. -/
  found : ∀ name ∈ c.names, ∃ k, c.get? name = some k ∧ c.typeOf name = .ok k.dataType
  notFound : ∀ name, name ∉ c.names →
    c.get? name = none ∧ c.typeOf name = .error (.unknownKeyword name)

theorem map_get?_names (c : Catalog) : c.names.map c.get? = c.keywords.map some := by
  rw [← map_name_keywords, List.map_map]
  refine List.map_congr_left fun k hk ↦ ?_
  exact get?_eq_some_iff.2 ⟨rfl, mem_keywords_iff.1 hk⟩

theorem coherent (c : Catalog) : c.Coherent where
  keyed name k h := by
    obtain ⟨rfl, -⟩ := get?_eq_some_iff.1 h
    exact ⟨rfl, k.trim_name_ne_empty⟩
  ascending := by
    refine (NameMap.pairwise_precedes_iff (f := id)).2 ?_
    exact c.types.ascending.map _ fun _ _ h ↦ h
  listed := c.map_get?_names
  size_eq := (List.length_map _).symm
  contains_iff name := mem_names_iff.symm
  found name hn := by
    obtain ⟨type, ht⟩ := contains_iff_exists.1 (mem_names_iff.1 hn)
    exact ⟨⟨name, type, c.named _ (NameMap.mem_of_get? ht)⟩, get?_eq_some_iff.2 ⟨rfl, ht⟩,
      typeOf_eq_ok_iff.2 ht⟩
  notFound name hn := by
    have hg : c.get? name = none :=
      get?_eq_none_iff.2 (Bool.eq_false_iff.2 (mt mem_names_iff.2 hn))
    exact ⟨hg, by rw [typeOf, hg]⟩

/-! ## The invariant -/

/-- After any calls, one more call adds what it binds or changes nothing, and what is registered in
a second phase is never refused. The names that are bound keep their types from then on. -/
theorem calls_add_or_keep (start : Catalog) (calls : List Call) (call : Call) :
    let c := start.after calls
    let d := (c.perform call).1
    let answer := (c.perform call).2
    (∀ e, answer = .error e → d = c ∧ c.apply call = .error e) ∧
      (∀ (other : Catalog) visited, visited.Perm other.keywords →
        other.names.find? c.contains = none → (c.commit visited).2 = .ok ()) ∧
      (∀ (fields : NameMap Json) ks, fields.entries.mapM c.define = .ok ks →
        (c.commit ks).2 = .ok ()) ∧
      (answer = .ok () ↔ call.Acceptable c) ∧
      (answer = .ok () → c.apply call = .ok d ∧ ∀ name type,
        d.typeOf name = .ok type ↔ call.Binds name type ∨ c.typeOf name = .ok type) ∧
      (∀ name type, c.typeOf name = .ok type ↔
        start.typeOf name = .ok type ∨ ∃ a ∈ start.accepted calls, a.Binds name type) ∧
      (∀ later name type, c.typeOf name = .ok type →
        (c.after later).typeOf name = .ok type) ∧
      c.Coherent := by
  intro c d answer
  refine ⟨fun e he ↦ eq_of_perform_eq_error he, fun other visited hp hf ↦ ?_, fun fields ks hm ↦ ?_,
    perform_eq_ok_iff, typeOf_of_perform_eq_ok, fun name type ↦ typeOf_after_iff,
    fun later name type ↦ typeOf_after later, c.coherent⟩
  · rw [commit_of_find?_eq_none hp hf]
  · rw [commit_of_mapM_define hm]

end KeywordValues.Catalog
