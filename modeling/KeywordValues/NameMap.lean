/-!
# Maps with text keys in ascending order

A `NameMap` lists its entries by strictly ascending name. Names are compared character by
character, which is also the order of their UTF-8 bytes. `get?_insert` says what insertion does to
every look-up.
-/

namespace KeywordValues

universe u

/-- Entries listed by strictly ascending name. -/
structure NameMap (α : Type u) where
  /-- The entries in order. -/
  entries : List (String × α)
  /-- Each name is smaller than all later ones, so no name occurs twice. -/
  ascending : entries.Pairwise (·.1 < ·.1)

namespace NameMap

variable {α : Type u}

/-- The map without entries. -/
def empty : NameMap α := ⟨[], .nil⟩

instance : Inhabited (NameMap α) := ⟨empty⟩

/-- Puts an entry into its place in an ascending list, over an entry of the same name. -/
def insertInto (k : String) (v : α) : List (String × α) → List (String × α)
  | [] => [(k, v)]
  | e :: es =>
      if k < e.1 then (k, v) :: e :: es
      else if e.1 < k then e :: insertInto k v es
      else (k, v) :: es

/-- Two names that are not apart in the order are one name. -/
theorem eq_of_not_lt {a b : String} (h₁ : ¬ a < b) (h₂ : ¬ b < a) : a = b :=
  String.le_antisymm (String.not_lt.1 h₂) (String.not_lt.1 h₁)

theorem mem_insertInto {k : String} {v : α} {es : List (String × α)} {e : String × α}
    (h : e ∈ insertInto k v es) : e = (k, v) ∨ e ∈ es := by
  induction es with
  | nil => simpa [insertInto] using h
  | cons d ds ih =>
      simp only [insertInto] at h
      split at h
      · simpa using h
      · split at h
        · rcases List.mem_cons.1 h with rfl | h
          · exact .inr (List.mem_cons_self ..)
          · exact (ih h).imp_right (List.mem_cons_of_mem _)
        · rcases List.mem_cons.1 h with rfl | h
          · exact .inl rfl
          · exact .inr (List.mem_cons_of_mem _ h)

theorem pairwise_insertInto {k : String} {v : α} {es : List (String × α)}
    (h : es.Pairwise (·.1 < ·.1)) : (insertInto k v es).Pairwise (·.1 < ·.1) := by
  induction es with
  | nil => simp [insertInto]
  | cons d ds ih =>
      have ⟨hd, hds⟩ := List.pairwise_cons.1 h
      simp only [insertInto]
      split
      · rename_i hk
        exact List.pairwise_cons.2 ⟨fun e he ↦ by
          rcases List.mem_cons.1 he with rfl | he
          · exact hk
          · exact String.lt_trans hk (hd e he), h⟩
      · split
        · rename_i hk
          exact List.pairwise_cons.2 ⟨fun e he ↦ by
            rcases mem_insertInto he with rfl | he
            · exact hk
            · exact hd e he, ih hds⟩
        · rename_i h₁ h₂
          have hk : k = d.1 := eq_of_not_lt h₁ h₂
          exact List.pairwise_cons.2 ⟨fun e he ↦ hk ▸ hd e he, hds⟩

/-- Puts an entry into its place, over an entry of the same name. -/
def insert (m : NameMap α) (k : String) (v : α) : NameMap α :=
  ⟨insertInto k v m.entries, pairwise_insertInto m.ascending⟩

/-- The map of a list of entries, of which the later wins where two share a name. -/
def ofList (es : List (String × α)) : NameMap α :=
  es.foldl (fun m e ↦ m.insert e.1 e.2) empty

/-- The value that a list of entries holds under a name. -/
def valueAt (k : String) (es : List (String × α)) : Option α :=
  (es.find? (·.1 == k)).map (·.2)

/-- The value at a name. -/
def get? (m : NameMap α) (k : String) : Option α := valueAt k m.entries

/-- Whether a name has a value. -/
def contains (m : NameMap α) (k : String) : Bool := (m.get? k).isSome

/-- The names in order. -/
def names (m : NameMap α) : List String := m.entries.map (·.1)

/-- How many entries there are. -/
def size (m : NameMap α) : Nat := m.entries.length

/-- Whether there are no entries. -/
def isEmpty (m : NameMap α) : Bool := m.entries.isEmpty

theorem valueAt_cons (k : String) (e : String × α) (es : List (String × α)) :
    valueAt k (e :: es) = if e.1 = k then some e.2 else valueAt k es := by
  by_cases h : e.1 = k <;> simp [valueAt, h]

theorem valueAt_insertInto (k j : String) (v : α) (es : List (String × α)) :
    valueAt j (insertInto k v es) = if k = j then some v else valueAt j es := by
  induction es with
  | nil => by_cases h : k = j <;> simp [insertInto, valueAt, h]
  | cons d ds ih =>
      simp only [insertInto]
      split
      · simp only [valueAt_cons]
      · split
        · rename_i hk
          have hne : d.1 ≠ k := fun h ↦ String.lt_irrefl _ (h ▸ hk)
          by_cases hj : d.1 = j
          · have : k ≠ j := fun h ↦ hne (hj.trans h.symm)
            simp [valueAt_cons, hj, this]
          · simp [valueAt_cons, hj, ih]
        · rename_i h₁ h₂
          simp only [valueAt_cons, eq_of_not_lt h₁ h₂]
          split <;> rfl

/-- An inserted entry is found under its name, and every other look-up is as before. -/
@[simp] theorem get?_insert (m : NameMap α) (k j : String) (v : α) :
    (m.insert k v).get? j = if k = j then some v else m.get? j :=
  valueAt_insertInto k j v m.entries

@[simp] theorem get?_empty (k : String) : (empty : NameMap α).get? k = none := rfl

/-- A value that is found belongs to an entry. -/
theorem mem_of_get? {m : NameMap α} {k : String} {v : α} (h : m.get? k = some v) :
    (k, v) ∈ m.entries := by
  obtain ⟨e, he, rfl⟩ := Option.map_eq_some_iff.1 h
  have hk : e.1 = k := by simpa using List.find?_some he
  exact hk ▸ List.mem_of_find?_eq_some he

end NameMap

end KeywordValues
