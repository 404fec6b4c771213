import KeywordValues.Load
import KeywordValues.Proofs.Catalog
import KeywordValues.Proofs.Conversion

/-!
# What becomes of the members of a schema

The outcome of a member depends on the member, on the catalog and on whether names outside the
catalog are refused, and not on the other members. The members of a schema are sorted by their
outcomes into three lists, each in the order of the members.
-/

namespace KeywordValues

/-- What becomes of a member of a schema. -/
inductive Outcome where
  | typed (v : TypedValue)
  | failed (e : MemberError)
  | skipped

namespace Outcome

def value? : Outcome → Option TypedValue
  | .typed v => some v
  | _ => none

def error? : Outcome → Option MemberError
  | .failed e => some e
  | _ => none

def isSkipped : Outcome → Bool
  | .skipped => true
  | _ => false

theorem value?_eq_some_iff {x : Outcome} {v : TypedValue} : x.value? = some v ↔ x = .typed v := by
  cases x <;> simp [value?]

theorem error?_eq_some_iff {x : Outcome} {e : MemberError} :
    x.error? = some e ↔ x = .failed e := by
  cases x <;> simp [error?]

theorem isSkipped_iff {x : Outcome} : x.isSkipped = true ↔ x = .skipped := by
  cases x <;> simp [isSkipped]

end Outcome

/-! ## Members by name -/

section Labelled

variable {α β : Type} {f : String × α → Option β} {ms : List (String × α)}

/-- What a function finds at members, with the names of the members. -/
def labelled (f : String × α → Option β) (ms : List (String × α)) : List (String × β) :=
  ms.filterMap fun m ↦ (f m).map (m.1, ·)

theorem mem_labelled_iff {name : String} {b : β} :
    (name, b) ∈ labelled f ms ↔ ∃ a, (name, a) ∈ ms ∧ f (name, a) = some b := by
  simp only [labelled, List.mem_filterMap, Option.map_eq_some_iff]
  constructor
  · rintro ⟨⟨n, a⟩, hm, _, hb, heq⟩
    cases heq
    exact ⟨a, hm, hb⟩
  · rintro ⟨a, hm, hb⟩
    exact ⟨_, hm, b, hb, rfl⟩

theorem pairwise_labelled (h : ms.Pairwise (·.1 < ·.1)) :
    (labelled f ms).Pairwise (·.1 < ·.1) := by
  refine h.filterMap _ fun a b hab x hx y hy ↦ ?_
  obtain ⟨_, _, rfl⟩ := Option.map_eq_some_iff.1 hx
  obtain ⟨_, _, rfl⟩ := Option.map_eq_some_iff.1 hy
  exact hab

end Labelled

namespace Catalog

/-- The outcome of a member. A member that the catalog knows is given the form of a node and then
the type of its name, and any other is refused or skipped. -/
def outcome (c : Catalog) (strict : Bool) (m : String × Json) : Outcome :=
  if c.contains m.1 then
    match Node.ofJson m.2 with
    | .error e => .failed (.value m.1 (.unsupported e))
    | .ok node =>
        match c.convert m.1 node with
        | .ok v => .typed v
        | .error e => .failed e
  else if strict then .failed (.unknownKeyword m.1)
  else .skipped

/-- The members that get a value, with it. -/
def typed (c : Catalog) (strict : Bool) (ms : List (String × Json)) : List (String × TypedValue) :=
  labelled (fun m ↦ (c.outcome strict m).value?) ms

/-- The members that fail, with their errors. -/
def failing (c : Catalog) (strict : Bool) (ms : List (String × Json)) :
    List (String × MemberError) :=
  labelled (fun m ↦ (c.outcome strict m).error?) ms

/-- The errors of the members that fail. -/
def failures (c : Catalog) (strict : Bool) (ms : List (String × Json)) : List MemberError :=
  (c.failing strict ms).map (·.2)

/-- The names that are skipped. -/
def skipped (c : Catalog) (strict : Bool) (ms : List (String × Json)) : List String :=
  (ms.filter fun m ↦ (c.outcome strict m).isSkipped).map (·.1)

variable {c : Catalog} {strict : Bool} {m : String × Json} {ms : List (String × Json)}

/-! ## One member -/

theorem outcome_of_get?_eq_none (h : c.get? m.1 = none) :
    c.outcome strict m = if strict then .failed (.unknownKeyword m.1) else .skipped := by
  rw [outcome, get?_eq_none_iff.1 h, if_neg Bool.false_ne_true]

theorem outcome_of_get?_eq_some {k : Keyword} (h : c.get? m.1 = some k) :
    c.outcome strict m =
      match Node.ofJson m.2 with
      | .error e => .failed (.value k.name (.unsupported e))
      | .ok node =>
          match k.convert node with
          | .ok v => .typed v
          | .error e => .failed e := by
  rw [outcome, if_pos (contains_of_get?_eq_some h), (get?_eq_some_iff.1 h).1]
  simp only [convert, h]

/-- Exactly the members outside the catalog are skipped, unless they are refused. -/
theorem outcome_eq_skipped_iff :
    c.outcome strict m = .skipped ↔ c.contains m.1 = false ∧ strict = false := by
  cases h : c.get? m.1 with
  | none => cases strict <;> simp [outcome_of_get?_eq_none h, get?_eq_none_iff.1 h]
  | some k =>
      have hc : c.contains m.1 = true := contains_of_get?_eq_some h
      rw [outcome_of_get?_eq_some h]
      split
      · simp [hc]
      · split <;> simp [hc]

/-- A member that gets a value is one that the catalog knows, and the value has its type. -/
theorem typeOf_of_outcome_eq_typed {v : TypedValue} (h : c.outcome strict m = .typed v) :
    c.typeOf m.1 = .ok v.dataType := by
  cases hk : c.get? m.1 with
  | none => cases strict <;> simp [outcome_of_get?_eq_none hk] at h
  | some k =>
      rw [outcome_of_get?_eq_some hk] at h
      split at h
      · cases h
      · split at h
        · rename_i hv
          cases h
          rw [typeOf, hk, Keyword.dataType_of_convert hv]
        · cases h

/-- Exactly the members that have the form of a node and a type that takes this node get a value. -/
theorem exists_outcome_eq_typed_iff : (∃ v, c.outcome strict m = .typed v) ↔
    ∃ type node v, c.typeOf m.1 = .ok type ∧ Node.ofJson m.2 = .ok node ∧
      type.convert node = .ok v := by
  cases hk : c.get? m.1 with
  | none =>
      rw [outcome_of_get?_eq_none hk, typeOf, hk]
      cases strict <;> simp
  | some k =>
      rw [outcome_of_get?_eq_some hk, typeOf, hk]
      cases hn : Node.ofJson m.2 with
      | error e => simp
      | ok node => cases hv : k.dataType.convert node <;> simp [Keyword.convert, hv]

/-- The outcome of a member depends on what the catalog has for its name only. -/
theorem outcome_congr {d : Catalog} (h : c.get? m.1 = d.get? m.1) :
    c.outcome strict m = d.outcome strict m := by
  cases hk : d.get? m.1 with
  | none => rw [outcome_of_get?_eq_none hk, outcome_of_get?_eq_none (h.trans hk)]
  | some k => rw [outcome_of_get?_eq_some hk, outcome_of_get?_eq_some (h.trans hk)]

/-! ## All members -/

section Cons

variable {v : TypedValue} {e : MemberError} (ms)

theorem typed_cons (h : c.outcome strict m = .typed v) :
    c.typed strict (m :: ms) = (m.1, v) :: c.typed strict ms ∧
      c.failing strict (m :: ms) = c.failing strict ms ∧
      c.skipped strict (m :: ms) = c.skipped strict ms := by
  simp [typed, failing, skipped, labelled, h, Outcome.value?, Outcome.error?, Outcome.isSkipped]

theorem failing_cons (h : c.outcome strict m = .failed e) :
    c.typed strict (m :: ms) = c.typed strict ms ∧
      c.failing strict (m :: ms) = (m.1, e) :: c.failing strict ms ∧
      c.skipped strict (m :: ms) = c.skipped strict ms := by
  simp [typed, failing, skipped, labelled, h, Outcome.value?, Outcome.error?, Outcome.isSkipped]

theorem skipped_cons (h : c.outcome strict m = .skipped) :
    c.typed strict (m :: ms) = c.typed strict ms ∧
      c.failing strict (m :: ms) = c.failing strict ms ∧
      c.skipped strict (m :: ms) = m.1 :: c.skipped strict ms := by
  simp [typed, failing, skipped, labelled, h, Outcome.value?, Outcome.error?, Outcome.isSkipped]

end Cons

theorem mem_typed_iff {name : String} {v : TypedValue} :
    (name, v) ∈ c.typed strict ms ↔
      ∃ j, (name, j) ∈ ms ∧ c.outcome strict (name, j) = .typed v := by
  simp only [typed, mem_labelled_iff, Outcome.value?_eq_some_iff]

theorem mem_failing_iff {name : String} {e : MemberError} :
    (name, e) ∈ c.failing strict ms ↔
      ∃ j, (name, j) ∈ ms ∧ c.outcome strict (name, j) = .failed e := by
  simp only [failing, mem_labelled_iff, Outcome.error?_eq_some_iff]

theorem mem_skipped_iff {name : String} :
    name ∈ c.skipped strict ms ↔
      (∃ j, (name, j) ∈ ms) ∧ c.contains name = false ∧ strict = false := by
  simp only [skipped, List.mem_map, List.mem_filter, Outcome.isSkipped_iff, outcome_eq_skipped_iff]
  constructor
  · rintro ⟨m, ⟨hm, hs⟩, rfl⟩
    exact ⟨⟨m.2, hm⟩, hs⟩
  · rintro ⟨⟨j, hm⟩, hs⟩
    exact ⟨_, ⟨hm, hs⟩, rfl⟩

/-- Each member is in exactly one of the three lists. -/
theorem length_typed_add (c : Catalog) (strict : Bool) (ms : List (String × Json)) :
    (c.typed strict ms).length + (c.failing strict ms).length + (c.skipped strict ms).length =
      ms.length := by
  induction ms with
  | nil => rfl
  | cons m ms ih =>
      cases h : c.outcome strict m with
      | typed v =>
          obtain ⟨ht, hf, hs⟩ := typed_cons ms h
          rw [ht, hf, hs, List.length_cons, List.length_cons]
          omega
      | failed e =>
          obtain ⟨ht, hf, hs⟩ := failing_cons ms h
          rw [ht, hf, hs, List.length_cons, List.length_cons]
          omega
      | skipped =>
          obtain ⟨ht, hf, hs⟩ := skipped_cons ms h
          rw [ht, hf, hs, List.length_cons, List.length_cons]
          omega

theorem pairwise_skipped (h : ms.Pairwise (·.1 < ·.1)) :
    (c.skipped strict ms).Pairwise (· < ·) :=
  (h.filter _).map _ fun _ _ hab ↦ hab

end Catalog

end KeywordValues
