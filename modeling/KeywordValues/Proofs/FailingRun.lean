import KeywordValues.Proofs.CommandSteps
import KeywordValues.Proofs.LoadCommand
import KeywordValues.Proofs.TypeName

/-!
# Runs that fail

A run that fails has written nothing, and its exit code is one of five. What goes wrong with a file
never has the code for unknown names. That code has two origins: the name of a type that does not
exist, whatever there is to be converted, and a member of a schema that a strict loading does not
know.
-/

namespace KeywordValues.CommandLine

variable {fs : FileSystem} {format : OutputFormat} {path typeName : String}
  {catalog : Option String} {only strict allErrors : Bool} {source : Source} {e : Failure}

/-! ## Codes of files and documents -/

/-- The exit codes of what goes wrong with files and their contents. -/
def dataCodes : List Nat :=
  [ExitCode.permissionDenied, ExitCode.dataInvalid, ExitCode.noInput, ExitCode.internal]

theorem unknownName_not_mem_dataCodes : ExitCode.unknownName ∉ dataCodes := by decide

theorem dataInvalid_mem_dataCodes : ExitCode.dataInvalid ∈ dataCodes := by decide

theorem faultCode_mem (fault : FileFault) : faultCode fault ∈ dataCodes := by
  cases fault <;> simp [faultCode, dataCodes]

theorem documentCode_mem (d : DocumentError) : documentCode d ∈ dataCodes := by
  cases d with
  | io path fault => exact faultCode_mem fault
  | refused path reason => exact dataInvalid_mem_dataCodes

theorem catalogFileCode_mem (d : CatalogFileError) : catalogFileCode d ∈ dataCodes := by
  cases d with
  | document d => exact documentCode_mem d
  | catalog d => exact dataInvalid_mem_dataCodes

theorem code_mem_of_readInput (h : readInput fs path = .error e) : e.code ∈ dataCodes := by
  obtain ⟨d, -, rfl⟩ := mapError_eq_error_iff.1 h
  exact documentCode_mem d

theorem code_mem_of_read (h : source.read fs = .error e) : e.code ∈ dataCodes := by
  cases source with
  | text json => cases h
  | file path => exact code_mem_of_readInput h

theorem code_mem_of_resolveCatalog (h : (resolveCatalog fs catalog only).result = .error e) :
    e.code ∈ dataCodes := by
  unfold resolveCatalog at h
  split at h
  · cases h
  · split at h
    · cases h
      exact catalogFileCode_mem _
    · dsimp only at h
      split at h
      · cases h
      · split at h
        · cases h
          exact dataInvalid_mem_dataCodes
        · cases h

/-! ## How the commands fail -/

theorem result_runKeywords_of_eq_error (h : (resolveCatalog fs catalog only).result = .error e) :
    (runKeywords fs format catalog only).result = .error e := by
  rw [result_runKeywords, h]
  rfl

theorem result_runLoad_of_eq_error (h : (resolveCatalog fs catalog only).result = .error e) :
    (runLoad fs format path catalog only strict allErrors).result = .error e := by
  rw [result_runLoad, h]
  rfl

theorem code_mem_of_runKeywords (h : (runKeywords fs format catalog only).result = .error e) :
    e.code ∈ dataCodes := by
  rw [result_runKeywords] at h
  rcases bind_eq_error_iff.1 h with h | ⟨c, -, h⟩
  · exact code_mem_of_resolveCatalog h
  · cases h

/-- The name of the type is looked at before anything else. -/
theorem result_runConvert_of_eq_error {u : UnknownType} (h : DataType.ofName typeName = .error u) :
    (runConvert fs format typeName source).result =
      .error (.within "invalid --type" ExitCode.unknownName u.message) := by
  rw [result_runConvert, typeNamed, h]
  rfl

theorem code_mem_of_runConvert {t : DataType} (ht : DataType.ofName typeName = .ok t)
    (h : (runConvert fs format typeName source).result = .error e) : e.code ∈ dataCodes := by
  rw [result_runConvert, typeNamed, ht] at h
  rcases bind_eq_error_iff.1 h with h | ⟨t, -, h⟩
  · cases h
  rcases bind_eq_error_iff.1 h with h | ⟨text, -, h⟩
  · exact code_mem_of_read h
  rcases bind_eq_error_iff.1 h with h | ⟨node, -, h⟩
  · obtain ⟨_, -, rfl⟩ := mapError_eq_error_iff.1 h
    exact dataInvalid_mem_dataCodes
  rcases bind_eq_error_iff.1 h with h | ⟨v, -, h⟩
  · obtain ⟨_, -, rfl⟩ := mapError_eq_error_iff.1 h
    exact dataInvalid_mem_dataCodes
  · cases h

theorem loadCode_cases (d : LoadError) :
    loadCode d = ExitCode.unknownName ∨ loadCode d ∈ dataCodes := by
  unfold loadCode
  split
  · exact .inl rfl
  · exact .inr dataInvalid_mem_dataCodes

theorem code_cases_of_runLoad
    (h : (runLoad fs format path catalog only strict allErrors).result = .error e) :
    e.code = ExitCode.unknownName ∨ e.code ∈ dataCodes := by
  rw [result_runLoad] at h
  rcases bind_eq_error_iff.1 h with h | ⟨c, -, h⟩
  · exact .inr (code_mem_of_resolveCatalog h)
  rcases bind_eq_error_iff.1 h with h | ⟨text, -, h⟩
  · exact .inr (code_mem_of_readInput h)
  rcases bind_eq_error_iff.1 h with h | ⟨l, -, h⟩
  · obtain ⟨d, -, rfl⟩ := mapError_eq_error_iff.1 h
    exact loadCode_cases d
  · cases h

/-! ## Unknown names -/

/-- In the schema at a path a member is outside the catalog, and all members before it in the order
of bytes have values. -/
def FindsUnknownMember (fs : FileSystem) (path : String) (catalog : Option String) (only : Bool) :
    Prop :=
  ∃ c text fields, (resolveCatalog fs catalog only).result = .ok c ∧
    readInput fs path = .ok text ∧ Catalog.IsDocument text fields ∧
    ∃ m ∈ fields.entries, c.contains m.1 = false ∧
      ∀ n ∈ fields.entries, Text.Precedes n.1 m.1 → c.HasValue n

theorem exitCode_runLoad_eq_unknownName_iff :
    (runLoad fs format path catalog only strict allErrors).exitCode = ExitCode.unknownName ↔
      strict = true ∧ allErrors = false ∧ FindsUnknownMember fs path catalog only := by
  unfold FindsUnknownMember
  cases hc : (resolveCatalog fs catalog only).result with
  | error e =>
      have hcode := code_mem_of_resolveCatalog hc
      rw [exitCode_runLoad_of_eq_error hc]
      refine iff_of_false (fun h ↦ unknownName_not_mem_dataCodes (h ▸ hcode)) ?_
      simp
  | ok c =>
      rw [exitCode_runLoad_of_eq_ok hc]
      cases ht : readInput fs path with
      | error e =>
          have hcode := code_mem_of_readInput ht
          rw [exitCode_loadWith_of_eq_error ht]
          refine iff_of_false (fun h ↦ unknownName_not_mem_dataCodes (h ▸ hcode)) ?_
          simp
      | ok text =>
          rw [exitCode_loadWith_of_eq_ok ht, schemaCode_eq_unknownName_iff,
            Catalog.exists_loadText_eq_unknownKeyword_iff]
          simp

/-! ## Invocations -/

variable {env : Environment} {args : List String} {i : Invocation}

theorem result_runVersion_ne_error (extended : Bool) : (runVersion extended).result ≠ .error e := by
  unfold runVersion
  split <;> simp

/-- An invocation fails with a code for data, or with the one for unknown names. -/
theorem code_cases_of_run {default : OutputFormat} (h : (i.run fs default).result = .error e) :
    e.code = ExitCode.unknownName ∨ e.code ∈ dataCodes := by
  have hrun : (i.command.run fs (i.format.getD default)).result = .error e := h
  cases hc : i.command with
  | types =>
      rw [hc, Command.run] at hrun
      cases hrun
  | keywords catalog only =>
      rw [hc, Command.run] at hrun
      exact .inr (code_mem_of_runKeywords hrun)
  | convert type source =>
      rw [hc, Command.run] at hrun
      cases ht : DataType.ofName type with
      | ok t => exact .inr (code_mem_of_runConvert ht hrun)
      | error u =>
          rw [result_runConvert_of_eq_error ht] at hrun
          obtain rfl := Except.error.inj hrun
          exact .inl rfl
  | load path catalog only strict allErrors =>
      rw [hc, Command.run] at hrun
      exact code_cases_of_runLoad hrun
  | version extended =>
      rw [hc, Command.run] at hrun
      exact absurd hrun (result_runVersion_ne_error extended)

/-- An exit code other than zero is that of a failure. -/
theorem Report.exitCode_eq_iff {r : Report} {code : Nat} (h : code ≠ 0) :
    r.exitCode = code ↔ ∃ e, r.result = .error e ∧ e.code = code := by
  unfold exitCode
  cases r.result with
  | ok text => exact iff_of_false h.symm nofun
  | error e => simp

theorem unknownName_ne_zero : ExitCode.unknownName ≠ 0 := by decide

/-- What fails only because of data has not the code for unknown names. -/
theorem exitCode_ne_unknownName {r : Report} (h : ∀ e, r.result = .error e → e.code ∈ dataCodes) :
    r.exitCode ≠ ExitCode.unknownName := by
  rw [Ne, Report.exitCode_eq_iff unknownName_ne_zero]
  rintro ⟨e, he, hcode⟩
  exact unknownName_not_mem_dataCodes (hcode ▸ h e he)

theorem exitCode_runConvert_eq_unknownName_iff :
    (runConvert fs format typeName source).exitCode = ExitCode.unknownName ↔
      ∀ t, DataType.ofName typeName ≠ .ok t := by
  cases ht : DataType.ofName typeName with
  | ok t =>
      refine iff_of_false (exitCode_ne_unknownName ?_) fun h ↦ h t rfl
      intro e he
      exact code_mem_of_runConvert ht he
  | error u =>
      refine iff_of_true ((Report.exitCode_eq_iff unknownName_ne_zero).2 ?_) nofun
      exact ⟨_, result_runConvert_of_eq_error ht, rfl⟩

/-- The code for unknown names has two origins. -/
theorem exitCode_eq_unknownName_iff (i : Invocation) (fs : FileSystem) (default : OutputFormat) :
    (i.run fs default).exitCode = ExitCode.unknownName ↔
      (∃ type source, i.command = .convert type source ∧ ∀ t, DataType.ofName type ≠ .ok t) ∨
      ∃ path catalog only, i.command = .load path catalog only true false ∧
        FindsUnknownMember fs path catalog only := by
  have hrun : (i.run fs default).exitCode = (i.command.run fs (i.format.getD default)).exitCode :=
    rfl
  rw [hrun]
  cases i.command with
  | types => simp [Command.run, Report.exitCode, ExitCode.unknownName]
  | keywords catalog only =>
      refine iff_of_false (exitCode_ne_unknownName ?_) (by simp)
      intro e he
      exact code_mem_of_runKeywords he
  | convert type source =>
      rw [Command.run, exitCode_runConvert_eq_unknownName_iff]
      simp
  | load path catalog only strict allErrors =>
      rw [Command.run, exitCode_runLoad_eq_unknownName_iff]
      constructor
      · rintro ⟨rfl, rfl, h⟩
        exact .inr ⟨path, catalog, only, rfl, h⟩
      · rintro (⟨_, _, hc, -⟩ | ⟨_, _, _, hc, h⟩)
        · cases hc
        · cases hc
          exact ⟨rfl, rfl, h⟩
  | version extended =>
      refine iff_of_false (exitCode_ne_unknownName ?_) (by simp)
      intro e he
      exact absurd he (result_runVersion_ne_error extended)

/-- What accepted arguments ask for is done step by step as the report says. If the exit code is not
0, no step has written anything and the code is one of five. It is 64 for two reasons only: a
conversion to a type that does not exist, whatever there is to be converted, and a strict loading
that ends at its first error, where a member is outside the catalog and all those before it have
values. A catalog that is not read, not accepted or not to be merged ends the command, with one of
the other four codes. -/
theorem run_of_ofArguments (h : Invocation.ofArguments env args = .ok i) (fs : FileSystem)
    (default : OutputFormat) :
    let report := i.run fs default
    (∃ r name, Accepts env args r name ∧ i = r.invocation name ∧
      let steps := r.perform name fs default
      steps.exitCode = report.exitCode ∧ String.join steps.written = report.output ∧
        (report.exitCode ≠ 0 → steps.written = [])) ∧
    (report.exitCode ≠ 0 → report.output = "" ∧ report.exitCode ∈ [50, 60, 64, 66, 125]) ∧
    (report.exitCode = 64 ↔
      (∃ type source, i.command = .convert type source ∧ ∀ t, DataType.ofName type ≠ .ok t) ∨
      ∃ path catalog only, i.command = .load path catalog only true false ∧
        FindsUnknownMember fs path catalog only) ∧
    (∀ type source u, i.command = .convert type source → DataType.ofName type = .error u →
      report.result = .error (.within "invalid --type" 64 u.message)) ∧
    (∀ catalog only e, (i.command = .keywords catalog only ∨
        ∃ path strict allErrors, i.command = .load path catalog only strict allErrors) →
      (resolveCatalog fs catalog only).result = .error e →
      report.result = .error e ∧ e.code ∈ [50, 60, 66, 125]) := by
  intro report
  have hresult : report.result = (i.command.run fs (i.format.getD default)).result := rfl
  have hfailed (hcode : report.exitCode ≠ 0) : ∃ e, report.result = .error e :=
    ((Report.exitCode_eq_iff hcode).1 rfl).imp fun _ he ↦ he.1
  refine ⟨?_, fun hcode ↦ ?_, exitCode_eq_unknownName_iff i fs default, ?_, ?_⟩
  · obtain ⟨r, name, haccepts, rfl⟩ := ofArguments_eq_ok_iff.1 h
    have hyields := yields_perform haccepts fs default
    refine ⟨r, name, haccepts, rfl, hyields.exitCode_eq, hyields.join_written, fun hcode ↦ ?_⟩
    obtain ⟨e, he⟩ := hfailed hcode
    exact Console.Yields.written_eq_nil (he ▸ hyields)
  · obtain ⟨e, he⟩ := hfailed hcode
    have hsame : report.exitCode = e.code := by rw [Report.exitCode, he]
    refine ⟨by rw [Report.output, he], ?_⟩
    rw [hsame]
    rcases code_cases_of_run he with hname | hdata
    · rw [hname]
      decide
    · have hsubset : dataCodes ⊆ [50, 60, 64, 66, 125] := by decide
      exact hsubset hdata
  · intro type source u hc hu
    rw [hresult, hc, Command.run]
    exact result_runConvert_of_eq_error hu
  · rintro catalog only e (hc | ⟨path, strict, allErrors, hc⟩) he
    · rw [hresult, hc, Command.run]
      exact ⟨result_runKeywords_of_eq_error he, code_mem_of_resolveCatalog he⟩
    · rw [hresult, hc, Command.run]
      exact ⟨result_runLoad_of_eq_error he, code_mem_of_resolveCatalog he⟩

/-- An unknown type is reported although the file that holds the value is missing. -/
theorem run_of_convert_missing_file :
    let args := ["convert", "--type", "object", "--file", "missing.json"]
    let fs : FileSystem := ⟨fun _ ↦ .error .notFound, fun _ ↦ .error .notFound⟩
    let i : Invocation := ⟨.convert "object" (.file "missing.json"), none, .text, .info⟩
    Invocation.ofArguments [] args = .ok i ∧
      readInput fs "missing.json" = .error (.within "read failed" 66
        "failed reading missing.json: No such file or directory (os error 2)") ∧
      (i.run fs .json).exitCode = 64 ∧ (i.run fs .json).output = "" := by
  intro args fs i
  have hargs : Invocation.ofArguments [] args = .ok i := rfl
  obtain ⟨-, hfailing, hunknown, -⟩ := run_of_ofArguments hargs fs .json
  have htype : DataType.ofName "object" = .error ⟨"object"⟩ := rfl
  have hcode : (i.run fs .json).exitCode = 64 :=
    hunknown.2 (.inl ⟨_, _, rfl, fun t ht ↦ nomatch htype.symm.trans ht⟩)
  exact ⟨hargs, rfl, hcode, (hfailing (by rw [hcode]; decide)).1⟩

end KeywordValues.CommandLine
