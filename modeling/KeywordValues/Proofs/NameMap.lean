import KeywordValues.Proofs.ByteOrder
import KeywordValues.Proofs.Elementwise

/-!
# Facts about maps with text keys

A map is determined by its look-ups, its entries are what look-ups find, and a list that is
ascending already becomes the map that lists it. A function that can fail fails on the entries as it
does on the first of them in the order of bytes.
-/

namespace KeywordValues.NameMap

universe u

variable {α : Type u}

/-! ## Ascending lists -/

/-- Ascending lists of the same elements are one list. -/
theorem eq_of_mem_iff {β : Type u} {f : β → String} {xs ys : List β}
    (hx : xs.Pairwise (f · < f ·)) (hy : ys.Pairwise (f · < f ·)) (h : ∀ b, b ∈ xs ↔ b ∈ ys) :
    xs = ys := by
  have hne {a b : β} (hab : f a < f b) : a ≠ b := fun hb ↦ String.ne_of_lt hab (congrArg f hb)
  have hp : xs.Perm ys := (List.perm_ext_iff_of_nodup (hx.imp hne) (hy.imp hne)).2 h
  exact hp.eq_of_pairwise (fun a b _ _ hab hba ↦ absurd hab (String.lt_asymm hba)) hx hy

/-- A list ascends by name exactly if it does in the order of UTF-8 bytes. -/
theorem pairwise_precedes_iff {β : Type u} {f : β → String} {xs : List β} :
    xs.Pairwise (fun a b ↦ Text.Precedes (f a) (f b)) ↔ xs.Pairwise (f · < f ·) :=
  List.Pairwise.iff fun _ _ ↦ Text.precedes_iff

/-! ## Entries and look-ups -/

theorem nodup_names (m : NameMap α) : m.names.Nodup :=
  List.Pairwise.map _ (fun _ _ ↦ String.ne_of_lt) m.ascending

theorem valueAt_of_mem {k : String} {v : α} {es : List (String × α)}
    (hes : es.Pairwise (·.1 < ·.1)) (h : (k, v) ∈ es) : valueAt k es = some v := by
  induction es with
  | nil => cases h
  | cons e es ih =>
      have ⟨he, hes⟩ := List.pairwise_cons.1 hes
      rw [valueAt_cons]
      rcases List.mem_cons.1 h with rfl | h
      · simp
      · rw [if_neg (String.ne_of_lt (he (k, v) h)), ih hes h]

/-- What a look-up finds is an entry, and every entry is found. -/
theorem get?_eq_some_iff {m : NameMap α} {k : String} {v : α} :
    m.get? k = some v ↔ (k, v) ∈ m.entries :=
  ⟨mem_of_get?, valueAt_of_mem m.ascending⟩

theorem contains_iff {m : NameMap α} {k : String} : m.contains k = true ↔ k ∈ m.names := by
  rw [contains, Option.isSome_iff_exists]
  simp only [get?_eq_some_iff, names, List.mem_map]
  constructor
  · rintro ⟨v, h⟩
    exact ⟨_, h, rfl⟩
  · rintro ⟨e, h, rfl⟩
    exact ⟨e.2, h⟩

theorem get?_eq_none_iff {m : NameMap α} {k : String} : m.get? k = none ↔ m.contains k = false := by
  rw [contains, Option.isSome_eq_false_iff, Option.isNone_iff_eq_none]

theorem ext_entries {m n : NameMap α} (h : m.entries = n.entries) : m = n := by
  cases m
  cases n
  cases h
  rfl

/-- Maps with the same look-ups are equal. -/
theorem ext_get? {m n : NameMap α} (h : ∀ k, m.get? k = n.get? k) : m = n := by
  refine ext_entries (eq_of_mem_iff m.ascending n.ascending fun e ↦ ?_)
  rw [← get?_eq_some_iff (m := m), ← get?_eq_some_iff (m := n), h]

/-! ## Building a map from a list -/

theorem insertInto_of_forall_lt {k : String} {v : α} {es : List (String × α)}
    (h : ∀ e ∈ es, e.1 < k) : insertInto k v es = es ++ [(k, v)] := by
  induction es with
  | nil => rfl
  | cons e es ih =>
      have he : e.1 < k := h e (List.mem_cons_self ..)
      rw [insertInto, if_neg (String.lt_asymm he), if_pos he,
        ih fun d hd ↦ h d (List.mem_cons_of_mem _ hd), List.cons_append]

theorem entries_foldl_insert {m : NameMap α} {es : List (String × α)}
    (h : (m.entries ++ es).Pairwise (·.1 < ·.1)) :
    (es.foldl (fun m e ↦ m.insert e.1 e.2) m).entries = m.entries ++ es := by
  induction es generalizing m with
  | nil => simp
  | cons e es ih =>
      have hm : (m.insert e.1 e.2).entries = m.entries ++ [e] :=
        insertInto_of_forall_lt fun d hd ↦
          (List.pairwise_append.1 h).2.2 d hd e (List.mem_cons_self ..)
      rw [List.foldl_cons, ih (by rw [hm]; simpa using h), hm, List.append_assoc,
        List.singleton_append]

/-- The map of an ascending list is the one that lists it. -/
theorem ofList_eq {es : List (String × α)} (h : es.Pairwise (·.1 < ·.1)) : ofList es = ⟨es, h⟩ := by
  have he : ((empty : NameMap α).entries ++ es).Pairwise (·.1 < ·.1) := h
  exact ext_entries (entries_foldl_insert he)

theorem contains_insert {m : NameMap α} {j k : String} {v : α} :
    (m.insert j v).contains k = true ↔ k = j ∨ m.contains k = true := by
  rw [contains, contains, get?_insert, eq_comm (a := k)]
  by_cases h : j = k <;> simp [h]

theorem contains_foldl_insert {m : NameMap α} {es : List (String × α)} {k : String} :
    (es.foldl (fun m e ↦ m.insert e.1 e.2) m).contains k = true ↔
      m.contains k = true ∨ k ∈ es.map (·.1) := by
  induction es generalizing m with
  | nil => simp
  | cons e es ih =>
      rw [List.foldl_cons, ih, contains_insert, List.map_cons, List.mem_cons, or_assoc,
        or_left_comm]

/-- The map of a list has the names of the list. -/
theorem mem_names_ofList {es : List (String × α)} {k : String} :
    k ∈ (ofList es).names ↔ k ∈ es.map (·.1) := by
  rw [← contains_iff, ofList, contains_foldl_insert]
  exact or_iff_right Bool.false_ne_true

/-! ## Lists that have a name several times -/

/-- An entry of a list behind which its name does not come again. -/
def LastOf (es : List (String × α)) (e : String × α) : Prop :=
  ∃ before behind, es = before ++ e :: behind ∧ ∀ d ∈ behind, d.1 ≠ e.1

theorem not_lastOf_nil {e : String × α} : ¬ LastOf [] e := by
  rintro ⟨before, behind, h, -⟩
  exact absurd h.symm (List.append_ne_nil_of_right_ne_nil before (List.cons_ne_nil e behind))

theorem lastOf_cons_iff {es : List (String × α)} {d e : String × α} :
    LastOf (e :: es) d ↔ LastOf es d ∨ e = d ∧ ∀ x ∈ es, x.1 ≠ d.1 := by
  constructor
  · rintro ⟨before, behind, hes, hbehind⟩
    cases before with
    | nil =>
        cases hes
        exact .inr ⟨rfl, hbehind⟩
    | cons b before =>
        cases hes
        exact .inl ⟨before, behind, rfl, hbehind⟩
  · rintro (⟨before, behind, rfl, hbehind⟩ | ⟨rfl, hes⟩)
    · exact ⟨e :: before, behind, rfl, hbehind⟩
    · exact ⟨[], es, rfl, hes⟩

theorem get?_foldl_insert_eq_some_iff {m : NameMap α} {es : List (String × α)} {k : String}
    {v : α} : (es.foldl (fun m e ↦ m.insert e.1 e.2) m).get? k = some v ↔
      LastOf es (k, v) ∨ m.get? k = some v ∧ ∀ e ∈ es, e.1 ≠ k := by
  induction es generalizing m with
  | nil => simp [not_lastOf_nil]
  | cons e es ih =>
      rw [List.foldl_cons, ih, lastOf_cons_iff, get?_insert, List.forall_mem_cons, or_assoc]
      by_cases hk : e.1 = k
      · have he : e = (k, v) ↔ e.2 = v := by simp [Prod.ext_iff, hk]
        simp [hk, he]
      · have he : e ≠ (k, v) := fun he ↦ hk (congrArg Prod.fst he)
        simp [hk, he]

/-- The entries of the map of a list are the last ones that the list has of each name. -/
theorem mem_entries_ofList_iff {es : List (String × α)} {e : String × α} :
    e ∈ (ofList es).entries ↔ LastOf es e := by
  rw [← get?_eq_some_iff (k := e.1) (v := e.2), ofList, get?_foldl_insert_eq_some_iff]
  exact or_iff_left fun h ↦ Option.some_ne_none _ h.1.symm

theorem foldl_insert_insert {m : NameMap α} {es : List (String × α)} {e : String × α}
    (h : e.1 ∈ es.map (·.1)) :
    es.foldl (fun m e ↦ m.insert e.1 e.2) (m.insert e.1 e.2) =
      es.foldl (fun m e ↦ m.insert e.1 e.2) m := by
  obtain ⟨d, hd, hde⟩ := List.mem_map.1 h
  refine ext_get? fun k ↦ Option.ext fun v ↦ ?_
  rw [get?_foldl_insert_eq_some_iff, get?_foldl_insert_eq_some_iff, get?_insert]
  by_cases hk : e.1 = k
  · have hlater : ¬ ∀ x ∈ es, x.1 ≠ k := fun hes ↦ hes d hd (hde.trans hk)
    simp only [hlater, and_false]
  · rw [if_neg hk]

/-- An entry whose name comes again leaves nothing in the map of a list. -/
theorem ofList_append_cons {before behind : List (String × α)} {e : String × α}
    (h : e.1 ∈ behind.map (·.1)) : ofList (before ++ e :: behind) = ofList (before ++ behind) := by
  rw [ofList, ofList, List.foldl_append, List.foldl_append, List.foldl_cons, foldl_insert_insert h]

/-! ## Functions on the entries that can fail -/

theorem mapM_entries_eq_error_iff {β ε : Type} {f : String × α → Except ε β} {m : NameMap α}
    {e : ε} : m.entries.mapM f = .error e ↔ ∃ x ∈ m.entries, f x = .error e ∧
      ∀ z ∈ m.entries, Text.Precedes z.1 x.1 → ∃ y, f z = .ok y := by
  have hasc := List.pairwise_iff_getElem.1 m.ascending
  simp only [Text.precedes_iff, mapM_eq_error_iff]
  constructor
  · rintro ⟨i, h⟩
    have hi := h.lt
    refine ⟨m.entries[i], List.getElem_mem hi, h.fails, fun z hz hlt ↦ ?_⟩
    obtain ⟨j, hj, rfl⟩ := List.getElem_of_mem hz
    rcases Nat.lt_trichotomy j i with hji | rfl | hij
    · exact h.before j hji
    · exact absurd hlt (String.lt_irrefl _)
    · exact absurd hlt (String.lt_asymm (hasc i j hi hj hij))
  · rintro ⟨x, hx, he, hbefore⟩
    obtain ⟨i, hi, rfl⟩ := List.getElem_of_mem hx
    refine ⟨i, hi, he, fun j hj ↦ ?_⟩
    have hj' : j < m.entries.length := Nat.lt_trans hj hi
    exact hbefore m.entries[j] (List.getElem_mem hj') (hasc j i hj' hi hj)

end KeywordValues.NameMap
