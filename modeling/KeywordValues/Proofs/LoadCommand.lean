import KeywordValues.CommandLine.Run
import KeywordValues.Proofs.Collect
import KeywordValues.Proofs.Files
import KeywordValues.Proofs.Json.Reader

/-!
# How the loading of a schema ends

A loading of files that can be read has one of three exit codes. It ends well if the catalog and the
schema are what they have to be and no member of the schema fails. It ends with a code of its own
where the first failing member has a name that the catalog does not know, and with one and the same
code in all other cases.
-/

namespace KeywordValues

/-! ## Texts of schemas -/

namespace Catalog

variable {c : Catalog} {strict : Bool} {m : String × Json} {fields : NameMap Json} {text : String}
  {o : LoadOptions}

/-- A member has a value: it has the form of a node, and the type of its name takes this node. -/
def HasValue (c : Catalog) (m : String × Json) : Prop :=
  ∃ type node v, c.typeOf m.1 = .ok type ∧ Node.ofJson m.2 = .ok node ∧ type.convert node = .ok v

theorem HasValue.contains (h : c.HasValue m) : c.contains m.1 = true := by
  obtain ⟨type, node, v, ht, -⟩ := h
  exact contains_iff_exists.2 ⟨type, typeOf_eq_ok_iff.1 ht⟩

/-- The members that do not fail are those with a value, and those that are skipped. -/
theorem forall_outcome_ne_failed_iff : (∀ e, c.outcome strict m ≠ .failed e) ↔
    c.HasValue m ∨ c.contains m.1 = false ∧ strict = false := by
  have hvalue : (∃ v, c.outcome strict m = .typed v) ↔ c.HasValue m := exists_outcome_eq_typed_iff
  rw [← hvalue, ← outcome_eq_skipped_iff]
  cases c.outcome strict m <;> simp

theorem exists_outcome_eq_unknownKeyword_iff :
    (∃ name, c.outcome strict m = .failed (.unknownKeyword name)) ↔
      c.contains m.1 = false ∧ strict = true := by
  cases hk : c.get? m.1 with
  | none => cases strict <;> simp [outcome_of_get?_eq_none hk, get?_eq_none_iff.1 hk]
  | some k =>
      rw [outcome_of_get?_eq_some hk, contains_of_get?_eq_some hk]
      cases Node.ofJson m.2 with
      | error e => simp
      | ok node => cases hv : k.dataType.convert node <;> simp [Keyword.convert, hv]

/-- The least failing member has an unknown name if all members before it have values. -/
theorem exists_leastFailure_unknownKeyword_iff :
    (∃ name, c.LeastFailure strict fields (.unknownKeyword name)) ↔ strict = true ∧
      ∃ m ∈ fields.entries, c.contains m.1 = false ∧
        ∀ n ∈ fields.entries, Text.Precedes n.1 m.1 → c.HasValue n := by
  have hbefore (m : String × Json) : (∀ n ∈ fields.entries, ∀ e,
      c.outcome strict n = .failed e → ¬ Text.Precedes n.1 m.1) ↔
        ∀ n ∈ fields.entries, Text.Precedes n.1 m.1 →
          c.HasValue n ∨ c.contains n.1 = false ∧ strict = false := by
    simp only [← forall_outcome_ne_failed_iff]
    exact forall₂_congr fun n _ ↦ ⟨fun h hlt e he ↦ h e he hlt, fun h e he hlt ↦ h hlt e he⟩
  unfold LeastFailure
  simp only [hbefore]
  constructor
  · rintro ⟨name, m, hm, he, hn⟩
    obtain ⟨hc, rfl⟩ := exists_outcome_eq_unknownKeyword_iff.1 ⟨name, he⟩
    exact ⟨rfl, m, hm, hc, fun n hn' hlt ↦ (hn n hn' hlt).resolve_right nofun⟩
  · rintro ⟨rfl, m, hm, hc, hn⟩
    obtain ⟨name, he⟩ := exists_outcome_eq_unknownKeyword_iff.2 ⟨hc, rfl⟩
    exact ⟨name, m, hm, he, fun n hn' hlt ↦ .inl (hn n hn' hlt)⟩

/-- A text is loaded if it is the document of an object of which no member fails. -/
theorem exists_loadText_eq_ok_iff (ho : o.collect = false ∨ 1 ≤ o.maxReported) :
    (∃ l, (c.loadText o text).result = .ok l) ↔ ∃ fields, IsDocument text fields ∧
      ∀ m ∈ fields.entries, ∀ e, c.outcome o.strict m ≠ .failed e := by
  unfold loadText IsDocument
  cases Json.read text with
  | error e => simp
  | ok j => simp [loadJson_eq_ok_iff ho]

/-- No member of an object fails if those in the catalog have values, and there are no others where
they are refused. -/
theorem forall_mem_outcome_ne_failed_iff :
    (∀ m ∈ fields.entries, ∀ e, c.outcome strict m ≠ .failed e) ↔
      (∀ m ∈ fields.entries, c.contains m.1 = true → c.HasValue m) ∧
        (strict = true → ∀ m ∈ fields.entries, c.contains m.1 = true) := by
  simp only [forall_outcome_ne_failed_iff]
  constructor
  · intro h
    refine ⟨fun m hm hc ↦ ?_, fun hstrict m hm ↦ ?_⟩
    · exact (h m hm).resolve_right fun hskip ↦ nomatch hc.symm.trans hskip.1
    · exact ((h m hm).resolve_right fun hskip ↦ nomatch hstrict.symm.trans hskip.2).contains
  · rintro ⟨hvalue, hstrict⟩ m hm
    cases hc : c.contains m.1 with
    | true => exact .inl (hvalue m hm hc)
    | false =>
        have hs : strict ≠ true := fun hs ↦ nomatch hc.symm.trans (hstrict hs m hm)
        exact .inr ⟨rfl, Bool.eq_false_iff.2 hs⟩

/-- The error of a member is reported alone if it is the first and errors are not collected. -/
theorem loadText_eq_member_iff {e : MemberError} :
    (c.loadText o text).result = .error (.member e) ↔
      o.collect = false ∧ ∃ fields, IsDocument text fields ∧ c.LeastFailure o.strict fields e := by
  unfold loadText IsDocument
  cases Json.read text with
  | error e => simp
  | ok j =>
      cases hf : j.fields? with
      | none => simp [loadJson, hf]
      | some fields =>
          simp only [result_loadJson hf, Except.ok.injEq, exists_eq_left', hf, Option.some.injEq,
            leastFailure_iff]
          cases hc : o.collect with
          | false =>
              rw [result_failFast hc]
              cases c.failures o.strict fields.entries <;> simp
          | true =>
              rw [result_collect hc]
              cases (c.failures o.strict fields.entries).take o.maxReported <;> simp

theorem exists_loadText_eq_unknownKeyword_iff :
    (∃ name, (c.loadText o text).result = .error (.member (.unknownKeyword name))) ↔
      o.strict = true ∧ o.collect = false ∧ ∃ fields, IsDocument text fields ∧
        ∃ m ∈ fields.entries, c.contains m.1 = false ∧
          ∀ n ∈ fields.entries, Text.Precedes n.1 m.1 → c.HasValue n := by
  simp only [loadText_eq_member_iff]
  constructor
  · rintro ⟨name, hcollect, fields, hd, hleast⟩
    obtain ⟨hstrict, hm⟩ := exists_leastFailure_unknownKeyword_iff.1 ⟨name, hleast⟩
    exact ⟨hstrict, hcollect, fields, hd, hm⟩
  · rintro ⟨hstrict, hcollect, fields, hd, hm⟩
    obtain ⟨name, hleast⟩ := exists_leastFailure_unknownKeyword_iff.2 ⟨hstrict, hm⟩
    exact ⟨name, hcollect, fields, hd, hleast⟩

end Catalog

namespace CommandLine

/-! ## Exit codes -/

/-- The exit code of what comes of the text of a schema. -/
def schemaCode : Except LoadError LoadedSchema → Nat
  | .ok _ => 0
  | .error e => loadCode e

variable {r : Except LoadError LoadedSchema}

theorem schemaCode_eq_zero_iff : schemaCode r = 0 ↔ ∃ l, r = .ok l := by
  unfold schemaCode loadCode
  split
  · simp
  · split <;> simp [ExitCode.unknownName, ExitCode.dataInvalid]

theorem schemaCode_eq_unknownName_iff :
    schemaCode r = ExitCode.unknownName ↔ ∃ name, r = .error (.member (.unknownKeyword name)) := by
  unfold schemaCode loadCode
  split
  · simp [ExitCode.unknownName]
  · split
    · simp
    · rename_i h
      simpa [ExitCode.unknownName, ExitCode.dataInvalid] using h

theorem schemaCode_cases (r : Except LoadError LoadedSchema) : schemaCode r = 0 ∨
    schemaCode r = ExitCode.dataInvalid ∨ schemaCode r = ExitCode.unknownName := by
  unfold schemaCode loadCode
  split
  · exact .inl rfl
  · split
    · exact .inr (.inr rfl)
    · exact .inr (.inl rfl)

/-! ## Files -/

variable {fs : FileSystem} {path : String} {catalog : Option String} {only : Bool} {c : Catalog}
  {text : String} {e : Failure}

/-- The files of a loading can be read: the schema is in a regular file, and so is the catalog if
one is given, not behind a link. -/
structure Readable (fs : FileSystem) (path : String) (catalog : Option String) : Prop where
  schema : ∃ f, fs.target path = .ok (.regular f)
  catalog : ∀ p, catalog = some p →
    fs.isLink p = .ok false ∧ ∃ f, fs.target p = .ok (.regular f)

/-- There is a text at a path, within the default limit. -/
def HoldsText (fs : FileSystem) (path text : String) : Prop :=
  ∃ f, fs.target path = .ok (.regular f) ∧ f.Holds defaultMaxSize text

/-- There is the document of an object at a path. -/
def HoldsObject (fs : FileSystem) (path : String) (fields : NameMap Json) : Prop :=
  ∃ text, HoldsText fs path text ∧ Catalog.IsDocument text fields

/-- There is the document of a catalog at a path, with no more keywords than a file may have. -/
def HoldsCatalog (fs : FileSystem) (path : String) (c : Catalog) : Prop :=
  ∃ fields, HoldsObject fs path fields ∧ fields.size ≤ ({} : CatalogLimits).maxKeywords ∧
    c.OfFields fields

/-- The catalog of a loading: the standard one, the one at the given path or, if they share no name,
both together. -/
inductive Resolves (fs : FileSystem) : Option String → Bool → Catalog → Prop
  | standard (only : Bool) : Resolves fs none only .standard
  | replaced {path : String} {custom : Catalog} (h : HoldsCatalog fs path custom) :
      Resolves fs (some path) true custom
  | extended {path : String} {custom c : Catalog} (h : HoldsCatalog fs path custom)
      (hfree : ∀ name, custom.contains name = true → Catalog.standard.contains name = false)
      (htypes : ∀ name type, c.typeOf name = .ok type ↔
        Catalog.standard.typeOf name = .ok type ∨ custom.typeOf name = .ok type) :
      Resolves fs (some path) false c

/-- The default limit leaves room for the byte that shows that a file is too long. -/
theorem defaultMaxSize_lt : defaultMaxSize.toNat + 1 < UInt64.size := by decide

theorem readInput_eq_ok_iff (h : ∃ f, fs.target path = .ok (.regular f)) :
    readInput fs path = .ok text ↔ HoldsText fs path text := by
  obtain ⟨f, hf⟩ := h
  have hread : fs.readDocument path defaultMaxSize = .ok text ↔ f.Holds defaultMaxSize text :=
    FileSystem.readDocument_eq_ok_iff (.inr defaultMaxSize_lt) hf
  simp only [HoldsText, hf, Except.ok.injEq, Target.regular.injEq, exists_eq_left', ← hread]
  unfold readInput
  cases fs.readDocument path defaultMaxSize <;> simp [Except.mapError]

theorem code_of_readInput_eq_error (h : ∃ f, fs.target path = .ok (.regular f))
    (he : readInput fs path = .error e) : e.code = ExitCode.dataInvalid := by
  obtain ⟨f, hf⟩ := h
  unfold readInput at he
  cases hd : fs.readDocument path defaultMaxSize with
  | ok text =>
      rw [hd] at he
      cases he
  | error d =>
      rw [hd] at he
      cases he
      rcases FileSystem.eq_of_readDocument_eq_error hf hd with rfl | ⟨reason, rfl⟩ <;> rfl

theorem ofFile_eq_ok_iff_holdsCatalog (hlink : fs.isLink path = .ok false)
    (h : ∃ f, fs.target path = .ok (.regular f)) :
    Catalog.ofFile fs path = .ok c ↔ HoldsCatalog fs path c := by
  obtain ⟨f, hf⟩ := h
  rw [Catalog.ofFile_eq_ok_iff hlink hf (.inr defaultMaxSize_lt)]
  simp only [HoldsCatalog, HoldsObject, HoldsText, hf, Except.ok.injEq, Target.regular.injEq,
    exists_eq_left']
  constructor
  · rintro ⟨text, fields, ht, hd, hc⟩
    exact ⟨fields, ⟨text, ht, hd⟩, hc⟩
  · rintro ⟨fields, ⟨text, ht, hd⟩, hc⟩
    exact ⟨text, fields, ht, hd, hc⟩

theorem resolveCatalog_eq_ok_iff (h : Readable fs path catalog) :
    (resolveCatalog fs catalog only).result = .ok c ↔ Resolves fs catalog only c := by
  cases catalog with
  | none =>
      rw [resolveCatalog, Except.ok.injEq]
      constructor
      · rintro rfl
        exact .standard only
      · intro hr
        cases hr
        rfl
  | some p =>
      obtain ⟨hlink, hf⟩ := h.catalog p rfl
      have hfile (d : Catalog) : Catalog.ofFile fs p = .ok d ↔ HoldsCatalog fs p d :=
        ofFile_eq_ok_iff_holdsCatalog hlink hf
      rw [resolveCatalog]
      constructor
      · intro hr
        split at hr
        · cases hr
        · rename_i custom hcustom
          split at hr
          · rename_i honly
            cases hr
            exact honly ▸ .replaced ((hfile _).1 hcustom)
          · rename_i honly
            split at hr <;> cases hr
            rename_i hmerge
            obtain ⟨hfree, htypes⟩ := Catalog.extend_eq_ok_iff.1 hmerge
            exact Bool.eq_false_iff.2 honly ▸ .extended ((hfile _).1 hcustom) hfree htypes
      · intro hr
        cases hr with
        | replaced hcustom => simp [(hfile _).2 hcustom]
        | extended hcustom hfree htypes =>
            simp [(hfile _).2 hcustom, Catalog.extend_eq_ok_iff.2 ⟨hfree, htypes⟩]

theorem code_of_resolveCatalog_eq_error (h : Readable fs path catalog)
    (he : (resolveCatalog fs catalog only).result = .error e) : e.code = ExitCode.dataInvalid := by
  cases catalog with
  | none => cases he
  | some p =>
      obtain ⟨hlink, f, hf⟩ := h.catalog p rfl
      rw [resolveCatalog] at he
      split at he
      · rename_i d hd
        cases he
        rcases Catalog.eq_of_ofFile_eq_error hlink hf hd with rfl | ⟨reason, rfl⟩ | ⟨cause, rfl⟩ <;>
          rfl
      · split at he
        · cases he
        · split at he <;> cases he
          rfl

/-! ## The command -/

variable {format : OutputFormat} {o : LoadOptions} {strict allErrors : Bool}

theorem exitCode_loadWith_of_eq_ok (h : readInput fs path = .ok text) :
    (loadWith fs format path c o).exitCode = schemaCode (c.loadText o text).result := by
  rw [loadWith, h]
  simp only
  split <;> rename_i hr <;> rw [hr] <;> rfl

theorem exitCode_loadWith_of_eq_error (h : readInput fs path = .error e) :
    (loadWith fs format path c o).exitCode = e.code := by
  rw [loadWith, h]
  rfl

theorem exitCode_runLoad_of_eq_ok (h : (resolveCatalog fs catalog only).result = .ok c) :
    (runLoad fs format path catalog only strict allErrors).exitCode =
      (loadWith fs format path c { strict, collect := allErrors }).exitCode := by
  simp only [runLoad, h]
  rfl

theorem exitCode_runLoad_of_eq_error (h : (resolveCatalog fs catalog only).result = .error e) :
    (runLoad fs format path catalog only strict allErrors).exitCode = e.code := by
  simp only [runLoad, h]
  rfl

/-- A loading ends with the code of its schema, if there are a catalog and a schema, and otherwise
because of the data. -/
theorem exitCode_runLoad_cases (h : Readable fs path catalog) (format : OutputFormat)
    (only strict allErrors : Bool) :
    (∃ c text, Resolves fs catalog only c ∧ HoldsText fs path text ∧
      (runLoad fs format path catalog only strict allErrors).exitCode =
        schemaCode (c.loadText { strict, collect := allErrors } text).result) ∨
    (runLoad fs format path catalog only strict allErrors).exitCode = ExitCode.dataInvalid ∧
      ¬ ∃ c text, Resolves fs catalog only c ∧ HoldsText fs path text := by
  simp only [← resolveCatalog_eq_ok_iff h, ← readInput_eq_ok_iff h.schema]
  cases hc : (resolveCatalog fs catalog only).result with
  | error e =>
      have hcode := code_of_resolveCatalog_eq_error h hc
      exact .inr ⟨(exitCode_runLoad_of_eq_error hc).trans hcode, by simp⟩
  | ok c =>
      rw [exitCode_runLoad_of_eq_ok hc]
      cases ht : readInput fs path with
      | error e =>
          have hcode := code_of_readInput_eq_error h.schema ht
          exact .inr ⟨(exitCode_loadWith_of_eq_error ht).trans hcode, by simp⟩
      | ok text => exact .inl ⟨c, text, rfl, rfl, exitCode_loadWith_of_eq_ok ht⟩

theorem Resolves.unique {d : Catalog} (h : Readable fs path catalog)
    (hc : Resolves fs catalog only c) (hd : Resolves fs catalog only d) : c = d :=
  Except.ok.inj (((resolveCatalog_eq_ok_iff h).2 hc).symm.trans ((resolveCatalog_eq_ok_iff h).2 hd))

theorem HoldsText.unique {text' : String} (h : HoldsText fs path text)
    (h' : HoldsText fs path text') : text = text' := by
  obtain ⟨f, hf, ht⟩ := h
  obtain ⟨f', hf', ht'⟩ := h'
  cases hf.symm.trans hf'
  exact Option.some.inj (ht.decodes.symm.trans ht'.decodes)

/-- The exit code of a loading whose files can be read. It is 0 if there are a catalog and the
document of an object, the members in the catalog have values, and in a strict loading there are no
others. It is 64 if there are both, the loading is strict and ends at the first error, and some
member is outside the catalog while all those before it in the order of bytes have values. And it is
60 otherwise. -/
theorem exitCode_load {i : Invocation} (hi : i.command = .load path catalog only strict allErrors)
    (h : Readable fs path catalog) (default : OutputFormat) :
    let code := (i.run fs default).exitCode
    (code = 0 ∨ code = 60 ∨ code = 64) ∧
    (code = 0 ↔ ∃ c fields, Resolves fs catalog only c ∧ HoldsObject fs path fields ∧
      (∀ m ∈ fields.entries, c.contains m.1 = true → c.HasValue m) ∧
      (strict = true → ∀ m ∈ fields.entries, c.contains m.1 = true)) ∧
    (code = 64 ↔ strict = true ∧ allErrors = false ∧
      ∃ c fields, Resolves fs catalog only c ∧ HoldsObject fs path fields ∧
        ∃ m ∈ fields.entries, c.contains m.1 = false ∧
          ∀ n ∈ fields.entries, Text.Precedes n.1 m.1 → c.HasValue n) := by
  intro code
  have hcode : code =
      (runLoad fs (i.format.getD default) path catalog only strict allErrors).exitCode := by
    simp only [code, Invocation.run, hi]
    rfl
  rcases exitCode_runLoad_cases h (i.format.getD default) only strict allErrors with
    ⟨c, text, hc, ht, hload⟩ | ⟨hload, hnone⟩
  · rw [hcode, hload]
    have hobject (fields : NameMap Json) :
        HoldsObject fs path fields ↔ Catalog.IsDocument text fields :=
      ⟨fun ⟨_, ht', hd⟩ ↦ ht'.unique ht ▸ hd, fun hd ↦ ⟨text, ht, hd⟩⟩
    have hcatalog (d : Catalog) : Resolves fs catalog only d ↔ d = c :=
      ⟨fun hd ↦ hd.unique h hc, fun hd ↦ hd ▸ hc⟩
    refine ⟨schemaCode_cases _, ?_, ?_⟩
    · have hmax : 1 ≤ ({ strict, collect := allErrors } : LoadOptions).maxReported :=
        Nat.succ_le_succ (Nat.zero_le 7)
      rw [schemaCode_eq_zero_iff, Catalog.exists_loadText_eq_ok_iff (.inr hmax)]
      simp only [hcatalog, hobject, exists_and_left, exists_eq_left,
        Catalog.forall_mem_outcome_ne_failed_iff]
    · refine schemaCode_eq_unknownName_iff.trans
        (Catalog.exists_loadText_eq_unknownKeyword_iff.trans ?_)
      simp only [hcatalog, hobject, exists_and_left, exists_eq_left]
  · rw [hcode, hload]
    refine ⟨.inr (.inl rfl), iff_of_false nofun ?_, iff_of_false nofun ?_⟩
    · rintro ⟨c, fields, hc, ⟨text, ht, -⟩, -⟩
      exact hnone ⟨c, text, hc, ht⟩
    · rintro ⟨-, -, c, fields, hc, ⟨text, ht, -⟩, -⟩
      exact hnone ⟨c, text, hc, ht⟩

/-- The catalog knows the members `format` and `kind` of a schema but not `items`, and the value of
`kind` has another type. A strict loading fails for `items`, which comes first of the two. -/
theorem exitCode_load_three_members :
    let keywords := [("format", Json.string "string"), ("kind", .string "integer")]
    let members := [("format", Json.string "date"), ("items", .object []), ("kind", .bool true)]
    let file (text : String) := Target.regular ⟨text.utf8ByteSize, text.toUTF8⟩
    let fs : FileSystem := ⟨fun _ ↦ .ok false, fun path ↦
      .ok (file (Json.object (if path = "keywords.json" then keywords else members)).print)⟩
    let i : Invocation :=
      ⟨.load "schema.json" (some "keywords.json") true true false, none, .text, .info⟩
    i.command = .load "schema.json" (some "keywords.json") true true false ∧
      Readable fs "schema.json" (some "keywords.json") ∧ (i.run fs .json).exitCode = 64 := by
  intro keywords members file fs i
  have hfiles : Readable fs "schema.json" (some "keywords.json") :=
    ⟨⟨_, rfl⟩, fun _ _ ↦ ⟨rfl, _, rfl⟩⟩
  let c := (Catalog.empty.insert ⟨"format", .scalar .string, rfl⟩).insert
    ⟨"kind", .scalar .integer, rfl⟩
  have hobject {path : String} {ms : List (String × Json)} (hexact : Json.Exact 127 (.object ms))
      (hf : fs.target path = .ok (file (Json.object ms).print))
      (hsize : (Json.object ms).print.utf8ByteSize ≤ defaultMaxSize.toNat) :
      HoldsObject fs path (.ofList ms) :=
    ⟨_, ⟨_, hf, RegularFile.holds_toUTF8 hsize⟩, _, Json.read_print hexact, rfl⟩
  have hkeywords : HoldsObject fs "keywords.json" (.ofList keywords) :=
    hobject (.object (by decide) (by simp [keywords, Json.Exact.string])) rfl (by decide)
  have hmembers : HoldsObject fs "schema.json" (.ofList members) := by
    refine hobject (.object (by decide) ?_) rfl (by decide)
    simp [members, Json.Exact.string, Json.Exact.bool, Json.Exact.object]
  have hcustom : HoldsCatalog fs "keywords.json" c :=
    ⟨_, hkeywords, by decide, Catalog.extendByFields_empty_eq_ok_iff.1 rfl⟩
  have hformat : c.HasValue ("format", .string "date") :=
    ⟨.scalar .string, .scalar (.string "date"), .scalar .string "date", rfl, rfl, rfl⟩
  have hbefore : ∀ n ∈ members, Text.Precedes n.1 "items" → c.HasValue n := by
    simp only [members, List.forall_mem_cons, Text.precedes_iff]
    exact ⟨fun _ ↦ hformat, fun h ↦ absurd h (by decide), fun h ↦ absurd h (by decide), nofun⟩
  exact ⟨rfl, hfiles, (exitCode_load rfl hfiles .json).2.2.2 ⟨rfl, rfl, c, _, .replaced hcustom,
    hmembers, ("items", .object []), .tail _ (.head _), rfl, hbefore⟩⟩

end CommandLine

end KeywordValues
