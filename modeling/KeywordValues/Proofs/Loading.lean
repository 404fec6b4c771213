import KeywordValues.Proofs.Outcome

/-!
# Loading against the outcomes of the members

A loading that nothing ends is a fold of one step over the members, and the step only looks at the
outcome of its member. What is kept in the end is therefore the list of the members with a value,
the list of the names that are skipped and the first of the errors, and loading is the choice
between them.
-/

namespace KeywordValues

variable {c : Catalog} {o : LoadOptions}

/-! ## One member -/

namespace LoadProgress

/-- The progress after the conversion of a member, if the catalog knows it. -/
def attempt (c : Catalog) (p : LoadProgress) (m : String × Json) : LoadProgress :=
  match c.get? m.1 with
  | some k => (p.convert k m.2).1
  | none => p

/-- The progress after a member with a known outcome. -/
def settle (o : LoadOptions) (p : LoadProgress) (name : String) : Outcome → LoadProgress
  | .typed v => p.keep name v
  | .failed e => p.reject o.maxReported name e
  | .skipped => p.skip name

/-- The progress after a member that does not end the loading. -/
def step (c : Catalog) (o : LoadOptions) (p : LoadProgress) (m : String × Json) : LoadProgress :=
  (p.attempt c m).settle o m.1 (c.outcome o.strict m)

/-- What a conversion gives is the outcome of its member. -/
theorem convert_eq {p : LoadProgress} {m : String × Json} {k : Keyword} (h : c.get? m.1 = some k) :
    (p.convert k m.2).1 = p.attempt c m ∧
      c.outcome o.strict m =
        match (p.convert k m.2).2 with
        | .ok v => .typed v
        | .error e => .failed e := by
  rw [attempt, Catalog.outcome_of_get?_eq_some h, h]
  refine ⟨rfl, ?_⟩
  unfold convert
  cases Node.ofJson m.2 <;> rfl

/-- Conversions leave nothing but notes. -/
theorem attempt_eq (c : Catalog) (p : LoadProgress) (m : String × Json) :
    (p.attempt c m).values = p.values ∧ (p.attempt c m).skipped = p.skipped ∧
      (p.attempt c m).errors = p.errors := by
  unfold attempt
  split
  · unfold convert
    split <;> exact ⟨rfl, rfl, rfl⟩
  · exact ⟨rfl, rfl, rfl⟩

theorem step_typed (p : LoadProgress) {m : String × Json} {v : TypedValue}
    (h : c.outcome o.strict m = .typed v) :
    (p.step c o m).values = p.values.insert m.1 v ∧ (p.step c o m).skipped = p.skipped ∧
      (p.step c o m).errors = p.errors := by
  obtain ⟨hv, hs, he⟩ := attempt_eq c p m
  rw [step, h]
  exact ⟨congrArg (·.insert m.1 v) hv, hs, he⟩

theorem step_skipped (p : LoadProgress) {m : String × Json}
    (h : c.outcome o.strict m = .skipped) :
    (p.step c o m).values = p.values ∧ (p.step c o m).skipped = p.skipped.push m.1 ∧
      (p.step c o m).errors = p.errors := by
  obtain ⟨hv, hs, he⟩ := attempt_eq c p m
  rw [step, h]
  exact ⟨hv, congrArg (·.push m.1) hs, he⟩

/-- The errors that are kept are the first ones. -/
theorem toList_errors_reject (p : LoadProgress) {max : Nat} (name : String) (e : MemberError)
    {before : List MemberError} (h : p.errors.toList = before.take max) :
    (p.reject max name e).errors.toList = (before ++ [e]).take max := by
  have hsize : p.errors.size = min max before.length := by
    rw [← Array.length_toList, h, List.length_take]
  unfold reject
  by_cases hmax : before.length < max
  · rw [if_pos (by omega), Array.toList_push, h, List.take_of_length_le (Nat.le_of_lt hmax),
      List.take_of_length_le (by simpa using Nat.succ_le_of_lt hmax)]
  · rw [if_neg (by omega), h, List.take_append_of_le_length (Nat.le_of_not_lt hmax)]

theorem step_failed (p : LoadProgress) {m : String × Json} {e : MemberError}
    (h : c.outcome o.strict m = .failed e) {before : List MemberError}
    (hp : p.errors.toList = before.take o.maxReported) :
    (p.step c o m).values = p.values ∧ (p.step c o m).skipped = p.skipped ∧
      (p.step c o m).errors.toList = (before ++ [e]).take o.maxReported := by
  obtain ⟨hv, hs, he⟩ := attempt_eq c p m
  rw [step, h]
  exact ⟨hv, hs, toList_errors_reject _ m.1 e (he ▸ hp)⟩

/-- A member ends the loading if it fails and errors are not collected, and is a step otherwise. -/
theorem run_cons (p : LoadProgress) (m : String × Json) (ms : List (String × Json)) :
    run c o p (m :: ms) =
      match c.outcome o.strict m with
      | .typed _ | .skipped => run c o (p.step c o m) ms
      | .failed e =>
          if o.collect then run c o (p.step c o m) ms else (p.attempt c m, some e) := by
  obtain ⟨name, j⟩ := m
  unfold step
  cases hk : c.get? name with
  | none =>
      have ha : p.attempt c (name, j) = p := by rw [attempt, hk]
      rw [run, Catalog.outcome_of_get?_eq_none hk, ha, hk]
      cases o.strict <;> rfl
  | some k =>
      obtain ⟨ha, hx⟩ := convert_eq (o := o) (p := p) (m := (name, j)) hk
      rw [run, hx, ← ha, hk]
      simp only
      split <;> rename_i h <;> rw [h] <;> rfl

/-! ## All members -/

variable (ms : List (String × Json))

/-- A loading that nothing ends is a fold. -/
theorem run_eq_foldl (p : LoadProgress) (h : o.collect = true ∨ c.failures o.strict ms = []) :
    run c o p ms = (ms.foldl (step c o) p, none) := by
  induction ms generalizing p with
  | nil => rfl
  | cons m ms ih =>
      rw [run_cons, List.foldl_cons]
      cases hm : c.outcome o.strict m with
      | typed v =>
          rw [Catalog.failures, (Catalog.typed_cons ms hm).2.1] at h
          exact ih _ h
      | skipped =>
          rw [Catalog.failures, (Catalog.skipped_cons ms hm).2.1] at h
          exact ih _ h
      | failed e =>
          rcases h with h | h
          · simp only [h, if_true]
            exact ih _ (.inl h)
          · rw [Catalog.failures, (Catalog.failing_cons ms hm).2.1] at h
            cases h

/-- Where errors are not collected, the first one ends the loading. -/
theorem run_snd (p : LoadProgress) (h : o.collect = false) :
    (run c o p ms).2 = (c.failures o.strict ms).head? := by
  induction ms generalizing p with
  | nil => rfl
  | cons m ms ih =>
      rw [run_cons, Catalog.failures]
      cases hm : c.outcome o.strict m with
      | typed v =>
          rw [(Catalog.typed_cons ms hm).2.1]
          exact ih _
      | skipped =>
          rw [(Catalog.skipped_cons ms hm).2.1]
          exact ih _
      | failed e =>
          rw [(Catalog.failing_cons ms hm).2.1]
          simp [h]

/-- What a fold of steps has kept: the values, the names that are skipped, and of the errors as
many as are wanted. -/
theorem foldl_step (p : LoadProgress) (before : List MemberError)
    (h : p.errors.toList = before.take o.maxReported) :
    (ms.foldl (step c o) p).values =
        (c.typed o.strict ms).foldl (fun m e ↦ m.insert e.1 e.2) p.values ∧
      (ms.foldl (step c o) p).skipped.toList = p.skipped.toList ++ c.skipped o.strict ms ∧
      (ms.foldl (step c o) p).errors.toList =
        (before ++ c.failures o.strict ms).take o.maxReported := by
  induction ms generalizing p before with
  | nil => simp [Catalog.typed, Catalog.skipped, Catalog.failures, Catalog.failing, labelled, h]
  | cons m ms ih =>
      rw [List.foldl_cons, Catalog.failures]
      cases hm : c.outcome o.strict m with
      | typed v =>
          obtain ⟨ht, hf, hk⟩ := Catalog.typed_cons ms hm
          obtain ⟨hv, hs, he⟩ := step_typed p hm
          have hms := ih (p.step c o m) before (by rw [he, h])
          rw [hv, hs] at hms
          rw [ht, hf, hk]
          exact hms
      | skipped =>
          obtain ⟨ht, hf, hk⟩ := Catalog.skipped_cons ms hm
          obtain ⟨hv, hs, he⟩ := step_skipped p hm
          have hms := ih (p.step c o m) before (by rw [he, h])
          rw [hv, hs, Array.toList_push, List.append_assoc] at hms
          rw [ht, hf, hk]
          exact hms
      | failed e =>
          obtain ⟨ht, hf, hk⟩ := Catalog.failing_cons ms hm
          obtain ⟨hv, hs, he⟩ := step_failed p hm h
          have hms := ih (p.step c o m) (before ++ [e]) he
          rw [hv, hs, List.append_assoc] at hms
          rw [ht, hf, hk]
          exact hms

end LoadProgress

namespace Catalog

/-! ## Objects -/

/-- What the loading of an object keeps of its members. -/
def loaded (c : Catalog) (strict : Bool) (fields : NameMap Json) : LoadedSchema where
  values := ⟨c.typed strict fields.entries, pairwise_labelled fields.ascending⟩
  skipped := c.skipped strict fields.entries

variable {fields : NameMap Json}

/-- A loading that nothing ends keeps what the members have to give, and the first errors. -/
theorem run_fields (h : o.collect = true ∨ c.failures o.strict fields.entries = []) :
    ∃ p, LoadProgress.run c o {} fields.entries = (p, none) ∧
      (⟨p.values, p.skipped.toList⟩ : LoadedSchema) = c.loaded o.strict fields ∧
      p.errors.toList = (c.failures o.strict fields.entries).take o.maxReported := by
  obtain ⟨hv, hs, he⟩ := LoadProgress.foldl_step (c := c) fields.entries {} [] List.take_nil.symm
  refine ⟨_, LoadProgress.run_eq_foldl fields.entries {} h, ?_, he⟩
  have ht : (c.typed o.strict fields.entries).Pairwise (·.1 < ·.1) :=
    pairwise_labelled fields.ascending
  rw [loaded, LoadedSchema.mk.injEq]
  refine ⟨?_, hs⟩
  rw [hv]
  exact NameMap.ofList_eq ht

/-- Where errors are not collected, the first failing member decides. -/
theorem result_failFast (h : o.collect = false) :
    (c.loadFields o fields).result =
      match c.failures o.strict fields.entries with
      | [] => .ok (c.loaded o.strict fields)
      | e :: _ => .error (.member e) := by
  have hfirst := LoadProgress.run_snd (c := c) fields.entries {} h
  cases hf : c.failures o.strict fields.entries with
  | nil =>
      obtain ⟨p, hp, hl, he⟩ := run_fields (.inr hf)
      have hempty : p.errors.isEmpty = true := by
        rw [← Array.isEmpty_toList, he, hf, List.take_nil, List.isEmpty_nil]
      rw [loadFields, hp]
      simp only [hempty, if_true, hl]
  | cons e es =>
      rw [hf, List.head?_cons] at hfirst
      rw [loadFields]
      split
      · rename_i hp
        rw [hp, Option.some.injEq] at hfirst
        rw [hfirst]
      · rename_i hp
        rw [hp] at hfirst
        cases hfirst

/-- Where errors are collected, those that are kept decide. -/
theorem result_collect (h : o.collect = true) :
    (c.loadFields o fields).result =
      match (c.failures o.strict fields.entries).take o.maxReported with
      | [] => .ok (c.loaded o.strict fields)
      | e :: es => .error (.rejected (e :: es)) := by
  obtain ⟨p, hp, hl, he⟩ := run_fields (.inl h)
  rw [loadFields, hp]
  simp only [← Array.isEmpty_toList, he]
  cases hf : (c.failures o.strict fields.entries).take o.maxReported with
  | nil => simp only [List.isEmpty_nil, if_true, hl]
  | cons e es => simp

/-- Whatever the mode is, a schema that is accepted is read as the outcomes of its members say. -/
theorem eq_loaded_of_result_eq_ok {o : LoadOptions} {l : LoadedSchema}
    (h : (c.loadFields o fields).result = .ok l) : l = c.loaded o.strict fields := by
  cases hc : o.collect with
  | false =>
      rw [result_failFast hc] at h
      split at h <;> cases h
      rfl
  | true =>
      rw [result_collect hc] at h
      split at h <;> cases h
      rfl

end Catalog

end KeywordValues
