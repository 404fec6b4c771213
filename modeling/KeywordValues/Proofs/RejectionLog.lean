import KeywordValues.CommandLine.Log
import KeywordValues.Proofs.Collect

/-!
# What is logged of members that fail

Where errors are collected, each failing member leaves one warning, whether its error is kept or
not, and nothing else that happens in a loading is a warning. So the warnings say which members fail
in the order of their names, and the errors that are reported are those of the first warnings.
-/

namespace KeywordValues

namespace Event

/-- Whether an event is logged as a warning or as something graver. -/
def isWarning (e : Event) : Bool :=
  (CommandLine.LogEntry.ofEvent e).level.rank ≤ CommandLine.LogLevel.warn.rank

/-- What a member that fails leaves. -/
def ofFailing (m : String × MemberError) : Event := .keywordRejected m.1 m.2

/-- The error that an event carries. -/
def error? : Event → Option MemberError
  | .keywordRejected _ e => some e
  | _ => none

/-- The warnings in a journal. -/
def warnings (journal : List Event) : List Event := journal.filter isWarning

/-- Members that fail are all that there are warnings about. -/
theorem isWarning_iff {e : Event} : e.isWarning = true ↔ ∃ m, e = ofFailing m := by
  constructor
  · intro h
    cases e with
    | keywordRejected name e => exact ⟨(name, e), rfl⟩
    | _ => cases h
  · rintro ⟨m, rfl⟩
    rfl

theorem isWarning_ofConversion (type : DataType) (r : Except Mismatch TypedValue) :
    (ofConversion type r).isWarning = false := by
  cases r with
  | error e => rfl
  | ok v =>
      cases hs : type.isArray with
      | true => simp only [ofConversion, hs, if_true]; rfl
      | false => simp only [ofConversion, hs, Bool.false_eq_true, if_false]; rfl

@[simp] theorem warnings_append (es fs : List Event) :
    warnings (es ++ fs) = warnings es ++ warnings fs := List.filter_append ..

theorem warnings_concat_of_isWarning_eq_false {e : Event} (es : List Event)
    (h : e.isWarning = false) : warnings (es ++ [e]) = warnings es := by
  simp [warnings, h]

theorem warnings_concat_ofFailing (es : List Event) (m : String × MemberError) :
    warnings (es ++ [ofFailing m]) = warnings es ++ [ofFailing m] :=
  warnings_append es [ofFailing m]

theorem warnings_registrySetup : warnings registrySetup = [] := by
  refine List.filter_eq_nil_iff.2 fun e he ↦ Bool.eq_false_iff.1 ?_
  rcases List.mem_append.1 he with he | he
  · obtain ⟨b, -, rfl⟩ := List.mem_map.1 he
    exact isWarning_ofConversion _ _
  · rw [List.mem_singleton.1 he]
    rfl

/-- Building the registry on the way adds no warnings. -/
theorem warnings_withRegistry (es : List Event) : warnings (withRegistry es) = warnings es := by
  induction es with
  | nil => rfl
  | cons e es ih =>
      rw [withRegistry]
      split
      · rw [warnings_append, warnings_registrySetup, List.nil_append]
      · simp only [warnings, List.filter_cons] at ih ⊢
        rw [ih]

end Event

open Event (warnings ofFailing)

variable {c : Catalog} {o : LoadOptions}

/-! ## One member -/

namespace LoadProgress

theorem warnings_attempt (c : Catalog) (p : LoadProgress) (m : String × Json) :
    warnings (p.attempt c m).journal.toList = warnings p.journal.toList := by
  unfold attempt
  split
  · unfold convert
    split
    · rfl
    · rw [note, Array.toList_push,
        Event.warnings_concat_of_isWarning_eq_false _ (Event.isWarning_ofConversion _ _)]
  · rfl

/-- A member that fails leaves one warning, and every other member leaves none. -/
theorem warnings_step (p : LoadProgress) (m : String × Json) :
    warnings (p.step c o m).journal.toList =
      warnings p.journal.toList ++ (c.failing o.strict [m]).map ofFailing := by
  rw [step]
  cases hm : c.outcome o.strict m with
  | typed v =>
      rw [(Catalog.typed_cons [] hm).2.1]
      exact (warnings_attempt c p m).trans (List.append_nil _).symm
  | failed e =>
      rw [(Catalog.failing_cons [] hm).2.1, settle, reject, Array.toList_push,
        ← warnings_attempt c p m]
      exact Event.warnings_concat_ofFailing _ (m.1, e)
  | skipped =>
      rw [(Catalog.skipped_cons [] hm).2.1, settle, skip, Array.toList_push,
        Event.warnings_concat_of_isWarning_eq_false _ rfl, warnings_attempt]
      exact (List.append_nil _).symm

theorem warnings_step_of_failing_eq_nil (p : LoadProgress) {m : String × Json}
    (h : c.failing o.strict [m] = []) :
    warnings (p.step c o m).journal.toList = warnings p.journal.toList := by
  rw [warnings_step, h, List.map_nil, List.append_nil]

/-! ## All members -/

/-- A loading that collects errors leaves the warnings of all members that fail. -/
theorem warnings_foldl_step (p : LoadProgress) (ms : List (String × Json)) :
    warnings (ms.foldl (step c o) p).journal.toList =
      warnings p.journal.toList ++ (c.failing o.strict ms).map ofFailing := by
  induction ms generalizing p with
  | nil => exact (List.append_nil _).symm
  | cons m ms ih =>
      have happend : c.failing o.strict ([m] ++ ms) =
          c.failing o.strict [m] ++ c.failing o.strict ms := List.filterMap_append
      rw [List.singleton_append] at happend
      rw [List.foldl_cons, ih, warnings_step, happend, List.map_append, List.append_assoc]

/-- A loading that ends at the first error leaves no warning. -/
theorem warnings_run_failFast (h : o.collect = false) (p : LoadProgress)
    (ms : List (String × Json)) :
    warnings (run c o p ms).1.journal.toList = warnings p.journal.toList := by
  induction ms generalizing p with
  | nil => rfl
  | cons m ms ih =>
      rw [run_cons]
      cases hm : c.outcome o.strict m with
      | typed v =>
          exact (ih _).trans (warnings_step_of_failing_eq_nil p (Catalog.typed_cons [] hm).2.1)
      | failed e =>
          simp only [h, Bool.false_eq_true, if_false]
          exact warnings_attempt c p m
      | skipped =>
          exact (ih _).trans (warnings_step_of_failing_eq_nil p (Catalog.skipped_cons [] hm).2.1)

end LoadProgress

/-! ## Objects -/

namespace Catalog

variable {strict : Bool} {fields : NameMap Json}

/-- The end of a loading leaves no warning. -/
theorem warnings_loadFields : warnings (c.loadFields o fields).journal =
    warnings (LoadProgress.run c o {} fields.entries).1.journal.toList := by
  unfold loadFields
  split
  · rename_i hp
    rw [hp]
  · rename_i hp
    rw [hp]
    split
    · exact Event.warnings_concat_of_isWarning_eq_false _ rfl
    · rfl

theorem warnings_collect (h : o.collect = true) : warnings (c.loadFields o fields).journal =
    (c.failing o.strict fields.entries).map ofFailing := by
  rw [warnings_loadFields, LoadProgress.run_eq_foldl _ _ (.inl h),
    LoadProgress.warnings_foldl_step]
  rfl

theorem warnings_failFast (h : o.collect = false) :
    warnings (c.loadFields o fields).journal = [] := by
  rw [warnings_loadFields, LoadProgress.warnings_run_failFast h]
  rfl

/-- The errors that are reported are the first ones. -/
theorem eq_take_of_result_eq_rejected {k : Nat} {es : List MemberError}
    (h : (c.loadFields ⟨strict, true, k⟩ fields).result = .error (.rejected es)) :
    es = (c.failures strict fields.entries).take k := by
  rw [result_collect rfl] at h
  split at h
  · cases h
  · rename_i hes
    cases h
    exact hes.symm

theorem filterMap_error?_map_ofFailing (ms : List (String × MemberError)) :
    (ms.map ofFailing).filterMap Event.error? = ms.map (·.2) := by
  rw [List.filterMap_map]
  exact congrFun List.filterMap_eq_map ms

/-- Where errors are collected, the warnings of a loading are about the failing members, each of
which has one, in the order of the bytes of their names. How many errors may be kept makes no
difference to them, nor does it that the registry is built on the way, and the errors that are
reported are those of as many of the first warnings. Where errors are not collected there are no
warnings. -/
theorem loadJson_warnings (c : Catalog) (strict : Bool) {schema : Json}
    (hs : schema.fields? = some fields) :
    let failing := c.failing strict fields.entries
    failing.Pairwise (fun a b ↦ Text.Precedes a.1 b.1) ∧
      (∀ name e, (name, e) ∈ failing ↔
        ∃ j, (name, j) ∈ fields.entries ∧ c.outcome strict (name, j) = .failed e) ∧
      (∀ k, let r := c.loadJson ⟨strict, true, k⟩ schema
        warnings r.journal = failing.map ofFailing ∧
        warnings (Event.withRegistry r.journal) = failing.map ofFailing ∧
        ∀ es, r.result = .error (.rejected es) →
          es = ((warnings r.journal).take k).filterMap Event.error?) ∧
      (∀ k, warnings (c.loadJson ⟨strict, false, k⟩ schema).journal = []) ∧
      ∀ m, CommandLine.LogEntry.ofEvent (ofFailing m) =
        ⟨.warn, "schematype_keyword::loader", "keyword rejected",
          [("keyword", .shown m.1), ("error", .shown m.2.message)]⟩ := by
  intro failing
  have hload (o : LoadOptions) : c.loadJson o schema = c.loadFields o fields := by
    rw [loadJson, hs]
  refine ⟨NameMap.pairwise_precedes_iff.2 (pairwise_labelled fields.ascending),
    fun name e ↦ mem_failing_iff, fun k ↦ ?_, fun k ↦ ?_, fun m ↦ rfl⟩
  · have hwarnings : warnings (c.loadFields ⟨strict, true, k⟩ fields).journal =
        failing.map ofFailing := warnings_collect rfl
    simp only [hload, Event.warnings_withRegistry, hwarnings, true_and]
    intro es hes
    rw [← List.map_take, filterMap_error?_map_ofFailing, List.map_take]
    exact eq_take_of_result_eq_rejected hes
  · rw [hload]
    exact warnings_failFast rfl

/-- Two of the three members of a schema fail, and both are warned of although no more than one
error may be kept. -/
theorem loadJson_warnings_two_failures :
    let c := (empty.insert ⟨"note", .scalar .string, rfl⟩).insert ⟨"title", .scalar .string, rfl⟩
    let unknown := MemberError.unknownKeyword "kind"
    let value := MemberError.value "title" (.mismatch ⟨.scalar .string, .scalar .boolean, none⟩)
    let members := [("title", Json.bool true), ("note", .string ""), ("kind", .null)]
    let collected (k : Nat) := c.loadJson ⟨true, true, k⟩ (.object members)
    (Json.object members).fields? = some (.ofList members) ∧
      warnings (collected 0).journal =
        [.keywordRejected "kind" unknown, .keywordRejected "title" value] ∧
      (collected 1).result = .error (.rejected [unknown]) ∧
      [unknown] = ((warnings (collected 1).journal).take 1).filterMap Event.error? ∧
      warnings (c.loadJson ⟨true, false, 0⟩ (.object members)).journal = [] := by
  intro c unknown value members collected
  have hs : (Json.object members).fields? = some (.ofList members) := rfl
  have hone : (collected 1).result = .error (.rejected [unknown]) := rfl
  have ⟨_, _, hcollect, hfirst, _⟩ := loadJson_warnings c true hs
  exact ⟨hs, (hcollect 0).1, hone, (hcollect 1).2.2 _ hone, hfirst 0⟩

end Catalog

end KeywordValues
