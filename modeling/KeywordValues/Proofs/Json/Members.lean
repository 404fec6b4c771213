import KeywordValues.Json.Reader
import KeywordValues.Proofs.Json.Quoted
import KeywordValues.Proofs.NameMap

/-!
# Members as a text lists them

The text of an object lists its members in any order, and may list several with one name. What is
read from it is the map that keeps the last of these. Here it is said which members a text lists,
and that the texts that list members are those from which an object is read. The first character of
a text tells what kind of value it holds.
-/

namespace KeywordValues.Json

/-- The map that the members of a map stand for is that map. -/
theorem fields?_ofFields (fields : NameMap Json) : (ofFields fields).fields? = some fields :=
  congrArg some (NameMap.ofList_eq fields.ascending)

namespace Reader

variable {item : Scanner Json} {level : Option (Scanner Json)} {j : Json}
  {fields : NameMap Json} {m : String × Json} {ms : List (String × Json)} {n : Nat}
  {s t u rest : List Char} {c : Char}

/-! ## Members and objects -/

/-- A text holds members behind the quote that opens the name of the first, and the brace that
closes their object. -/
inductive Members (item : Scanner Json) : List Char → List (String × Json) → List Char → Prop where
  | last {s t rest : List Char} {m : String × Json} (hm : Reads (member item s) m t)
      (hend : skip t = '}' :: rest) : Members item s [m] rest
  | more {s t u v rest : List Char} {m : String × Json} {ms : List (String × Json)}
      (hm : Reads (member item s) m t) (hcomma : skip t = ',' :: u) (hquote : skip u = '"' :: v)
      (hms : Members item v ms rest) : Members item s (m :: ms) rest

/-- A text holds an object behind the brace that opens it. -/
inductive Body (item : Scanner Json) : List Char → List (String × Json) → List Char → Prop where
  | empty {s rest : List Char} (hend : skip s = '}' :: rest) : Body item s [] rest
  | members {s u rest : List Char} {ms : List (String × Json)} (hquote : skip s = '"' :: u)
      (hms : Members item u ms rest) : Body item s ms rest

theorem Members.unique {ms' : List (String × Json)} {rest' : List Char}
    (h : Members item s ms rest) (h' : Members item s ms' rest') : ms = ms' ∧ rest = rest' := by
  induction h generalizing ms' with
  | last hm hend =>
      cases h' with
      | last hm' hend' =>
          obtain ⟨rfl, rfl⟩ := hm.unique hm'
          cases hend.symm.trans hend'
          exact ⟨rfl, rfl⟩
      | more hm' hcomma' =>
          obtain ⟨-, rfl⟩ := hm.unique hm'
          cases hend.symm.trans hcomma'
  | more hm hcomma hquote _ ih =>
      cases h' with
      | last hm' hend' =>
          obtain ⟨-, rfl⟩ := hm.unique hm'
          cases hcomma.symm.trans hend'
      | more hm' hcomma' hquote' hms' =>
          obtain ⟨rfl, rfl⟩ := hm.unique hm'
          cases hcomma.symm.trans hcomma'
          cases hquote.symm.trans hquote'
          obtain ⟨rfl, rfl⟩ := ih hms'
          exact ⟨rfl, rfl⟩

theorem Body.unique {ms' : List (String × Json)} {rest' : List Char} (h : Body item s ms rest)
    (h' : Body item s ms' rest') : ms = ms' ∧ rest = rest' := by
  cases h with
  | empty hend =>
      cases h' with
      | empty hend' =>
          cases hend.symm.trans hend'
          exact ⟨rfl, rfl⟩
      | members hquote' => cases hend.symm.trans hquote'
  | members hquote hms =>
      cases h' with
      | empty hend' => cases hquote.symm.trans hend'
      | members hquote' hms' =>
          cases hquote.symm.trans hquote'
          exact hms.unique hms'

/-! ## Reading members and objects -/

theorem reads_members_last (hread : Reads (member item s) m u)
    (hend : skip u = '}' :: rest) (before : List (String × Json)) (h : s.length ≤ t.length) :
    Reads (members item t before s h) (before.reverse ++ [m]) rest := by
  obtain ⟨hs, hread⟩ := hread
  rw [members, ← List.reverse_cons]
  simp only [hread]
  split
  · rename_i hk
    cases hend.symm.trans hk
  · rename_i hk
    cases hend.symm.trans hk
    exact ⟨_, rfl⟩

theorem members_more {v w : List Char} (hread : Reads (member item s) m v)
    (hcomma : skip v = ',' :: w) (hquote : skip w = '"' :: u) (before : List (String × Json))
    (h : s.length ≤ t.length) (h' : u.length ≤ t.length) :
    members item t before s h = members item t (m :: before) u h' := by
  obtain ⟨hs, hread⟩ := hread
  rw [members]
  simp only [hread]
  split
  · rename_i hk
    cases hcomma.symm.trans hk
  · rename_i hk
    cases hcomma.symm.trans hk
    rw [if_neg (by decide), if_pos rfl]
    split
    · rename_i hcons
      cases hquote.symm.trans hcons
    · rename_i hcons
      cases hquote.symm.trans hcons
      rfl
    · rename_i hcons
      cases hquote.symm.trans hcons
    · rename_i hcons _
      exact absurd hquote (hcons u)

theorem exists_members_of_reads (before : List (String × Json)) (h : s.length ≤ t.length)
    (hread : Reads (members item t before s h) ms rest) :
    ∃ ms', ms = before.reverse ++ ms' ∧ Members item s ms' rest := by
  fun_induction members item t before s h with
  | case3 before s h m hm hlt r hr hlt' =>
      obtain ⟨_, hread⟩ := hread
      cases hread
      exact ⟨[m.value], List.reverse_cons, .last ⟨m.shorter, hm⟩ hr⟩
  | case5 before s h m hm hlt r u hu hlt' hr hlt'' hne ih =>
      obtain ⟨ms', rfl, hms⟩ := ih hread
      refine ⟨m.value :: ms', ?_, .more ⟨m.shorter, hm⟩ hr hu hms⟩
      rw [List.reverse_cons, List.append_assoc, List.singleton_append]
  | _ =>
      -- a fault
      obtain ⟨_, hread⟩ := hread
      cases hread

theorem reads_of_members (hms : Members item s ms rest) (before : List (String × Json))
    (h : s.length ≤ t.length) :
    Reads (members item t before s h) (before.reverse ++ ms) rest := by
  induction hms generalizing before with
  | last hm hend => exact reads_members_last hm hend before h
  | more hm hcomma hquote _ ih =>
      have ⟨hshort, _⟩ := hm
      have hcomma' := length_lt_of_skip_eq_cons hcomma
      have hquote' := length_lt_of_skip_eq_cons hquote
      rw [members_more hm hcomma hquote before h (by omega), List.append_cons, ← List.reverse_cons]
      exact ih _ _

theorem object_of_brace (hend : skip s = '}' :: rest) :
    Reads (object item s) (ofFields (.ofList [])) rest := by
  rw [object]
  split
  · rename_i hk
    cases hend.symm.trans hk
  · rename_i hk
    cases hend.symm.trans hk
    exact ⟨_, rfl⟩
  · rename_i hk
    cases hend.symm.trans hk
  · rename_i hk _
    exact absurd hend (hk rest)

theorem object_of_quote (hquote : skip s = '"' :: u)
    (hmembers : Reads (members item u [] u (length_le_self u)) ms rest) :
    Reads (object item s) (ofFields (.ofList ms)) rest := by
  obtain ⟨h, hmembers⟩ := hmembers
  rw [object]
  split
  · rename_i hk
    cases hquote.symm.trans hk
  · rename_i hk
    cases hquote.symm.trans hk
  · rename_i hk
    cases hquote.symm.trans hk
    simp only [hmembers]
    exact ⟨_, rfl⟩
  · rename_i hk
    exact absurd hquote (hk u)

/-- What is read of an object is the map of the members that its text holds. -/
theorem reads_object_iff : Reads (object item s) j rest ↔
    ∃ ms, Body item s ms rest ∧ j = ofFields (.ofList ms) := by
  constructor
  · rintro ⟨_, hread⟩
    rw [object] at hread
    split at hread
    · cases hread
    · rename_i hend
      cases hread
      exact ⟨[], .empty hend, rfl⟩
    · rename_i hquote
      split at hread
      · cases hread
      · rename_i ms hms
        cases hread
        obtain ⟨_, rfl, hmembers⟩ := exists_members_of_reads [] _ ⟨ms.shorter, hms⟩
        exact ⟨_, .members hquote hmembers, rfl⟩
    · cases hread
  · rintro ⟨ms, hbody, rfl⟩
    cases hbody with
    | empty hend => exact object_of_brace hend
    | members hquote hms => exact object_of_quote hquote (reads_of_members hms [] _)

/-! ## First characters -/

/-- A value and the first character of its text. -/
inductive Opens : Char → Json → Prop where
  | null : Opens 'n' .null
  | bool (b : Bool) : Opens (if b then 't' else 'f') (.bool b)
  | string (t : String) : Opens '"' (.string t)
  | array (js : List Json) : Opens '[' (.array js)
  | object (ms : List (String × Json)) : Opens '{' (.object ms)
  | whole {c : Char} (hc : c = '-' ∨ Decimal.isDigit c = true) (w : Decimal.Word) :
      Opens c (.whole w)
  | double {c : Char} (hc : c = '-' ∨ Decimal.isDigit c = true) (x : Float) : Opens c (.double x)

theorem opens_of_ofNumeral {x : Scanned s Decimal.Numeral}
    (hc : c = '-' ∨ Decimal.isDigit c = true) (h : Reads (ofNumeral x) j rest) : Opens c j := by
  obtain ⟨_, h⟩ := h
  unfold ofNumeral at h
  split at h <;> cases h
  · exact .whole hc _
  · exact .double hc _

theorem opens_of_number (hc : c = '-' ∨ Decimal.isDigit c = true)
    (h : Reads (number s) j rest) : Opens c j := by
  obtain ⟨hlt, h⟩ := h
  unfold number at h
  split at h <;> split at h
  · cases h
  · exact opens_of_ofNumeral hc ⟨hlt, h⟩
  · cases h
  · exact opens_of_ofNumeral hc ⟨hlt, h⟩

theorem eq_of_literal {letters : List Char} {word : Json}
    (h : Reads (literal letters word s) j rest) : j = word := by
  obtain ⟨_, h⟩ := h
  unfold literal at h
  split at h
  · cases h
  · split at h <;> cases h
    rfl

theorem opens_of_array (h : Reads (array item s) j rest) : Opens '[' j := by
  obtain ⟨_, h⟩ := h
  unfold array at h
  split at h
  · cases h
  · cases h
    exact .array _
  · split at h <;> cases h
    exact .array _

theorem opens_of_object (h : Reads (object item s) j rest) : Opens '{' j := by
  obtain ⟨ms, -, rfl⟩ := reads_object_iff.1 h
  exact .object _

/-- The first character tells what kind of value is read. -/
theorem opens_of_bare (h : Reads (bare level (c :: s)) j rest) : Opens c j := by
  obtain ⟨hlt, h⟩ := h
  unfold bare at h
  dsimp only at h
  split at h
  · rename_i hc
    subst hc
    split at h <;> cases h
    exact .string _
  split at h
  · rename_i hopen
    split at h
    · cases h
    · split at h <;> cases h
      rename_i j hj
      split at hj
      · rename_i hc
        exact hc ▸ opens_of_array ⟨j.shorter, hj⟩
      · rename_i hc
        exact hopen.resolve_left hc ▸ opens_of_object ⟨j.shorter, hj⟩
  split at h
  · rename_i hc
    exact hc ▸ eq_of_literal ⟨hlt, h⟩ ▸ .bool true
  split at h
  · rename_i hc
    exact hc ▸ eq_of_literal ⟨hlt, h⟩ ▸ .bool false
  split at h
  · rename_i hc
    exact hc ▸ eq_of_literal ⟨hlt, h⟩ ▸ .null
  split at h
  · rename_i hc
    exact opens_of_number hc ⟨hlt, h⟩
  · cases h

/-! ## Values that are objects -/

theorem reads_bare_brace_iff :
    Reads (bare (some item) ('{' :: s)) j rest ↔ Reads (object item s) j rest := by
  constructor
  · rintro ⟨_, h⟩
    cases hobject : object item s with
    | error e =>
        simp only [bare, hobject] at h
        cases h
    | ok j =>
        simp only [bare, hobject] at h
        cases h
        exact ⟨j.shorter, rfl⟩
  · rintro ⟨_, h⟩
    simp only [bare, h]
    exact ⟨_, rfl⟩

/-- What does not begin with a brace is no object. -/
theorem fields?_of_opens (hc : c ≠ '{') (h : Opens c j) : j.fields? = none := by
  cases h with
  | object => exact absurd rfl hc
  | _ => rfl

theorem reads_spaced_iff :
    Reads (value.spaced level s) j rest ↔ Reads (bare level (skip s)) j rest := by
  unfold value.spaced
  constructor
  · rintro ⟨_, h⟩
    split at h <;> cases h
    rename_i j hj _
    exact ⟨j.shorter, hj⟩
  · rintro ⟨_, h⟩
    rw [h]
    exact ⟨_, rfl⟩

/-- An object is read behind the space in front of a text exactly if a brace comes next and the text
behind it holds the members of the object. -/
theorem exists_reads_value_iff :
    (∃ j, Reads (value (n + 1) s) j rest ∧ j.fields? = some fields) ↔
      ∃ u ms, skip s = '{' :: u ∧ Body (value n) u ms rest ∧ fields = .ofList ms := by
  have hvalue : value (n + 1) s = value.spaced (some (value n)) s := rfl
  simp only [hvalue, reads_spaced_iff]
  constructor
  · rintro ⟨j, hread, hj⟩
    cases hs : skip s with
    | nil =>
        rw [hs] at hread
        obtain ⟨_, hread⟩ := hread
        cases hread
    | cons c u =>
        rw [hs] at hread
        by_cases hc : c = '{'
        · subst hc
          obtain ⟨ms, hbody, rfl⟩ := reads_object_iff.1 (reads_bare_brace_iff.1 hread)
          rw [fields?_ofFields] at hj
          exact ⟨u, ms, rfl, hbody, (Option.some.inj hj).symm⟩
        · cases (fields?_of_opens hc (opens_of_bare hread)).symm.trans hj
  · rintro ⟨u, ms, hs, hbody, rfl⟩
    rw [hs]
    exact ⟨_, reads_bare_brace_iff.2 (reads_object_iff.2 ⟨ms, hbody, rfl⟩), fields?_ofFields _⟩

theorem text_eq_ok_iff : text s = .ok j ↔ ∃ t, Reads (value maxLevels s) j t ∧ skip t = [] := by
  unfold text
  constructor
  · intro h
    split at h
    · cases h
    · rename_i j hj
      split at h <;> cases h
      rename_i hskip
      exact ⟨j.rest, ⟨j.shorter, hj⟩, hskip⟩
  · rintro ⟨t, ⟨_, h⟩, hskip⟩
    simp only [h, hskip]

end Reader

/-! ## Texts of objects -/

/-- A text is that of an object and lists these members, in this order. -/
def Lists (text : String) (ms : List (String × Json)) : Prop :=
  ∃ s rest, Reader.skip text.toList = '{' :: s ∧
    Reader.Body (Reader.value (Reader.maxLevels - 1)) s ms rest ∧ Reader.skip rest = []

variable {text : String} {fields : NameMap Json} {ms : List (String × Json)}

theorem read_eq_ok_iff {j : Json} : read text = .ok j ↔ Reader.text text.toList = .ok j := by
  unfold read
  split
  · rename_i h
    simp [h]
  · rename_i h
    simp [h]

/-- A text lists its members in one way. -/
theorem Lists.unique {ms' : List (String × Json)} (h : Lists text ms) (h' : Lists text ms') :
    ms = ms' := by
  obtain ⟨s, rest, hs, hbody, -⟩ := h
  obtain ⟨s', rest', hs', hbody', -⟩ := h'
  cases hs.symm.trans hs'
  exact (hbody.unique hbody').1

/-- The objects that are read are the maps of the members that texts list. -/
theorem exists_read_iff_lists :
    (∃ j, read text = .ok j ∧ j.fields? = some fields) ↔
      ∃ ms, Lists text ms ∧ fields = .ofList ms := by
  have hobject {rest : List Char} :
      (∃ j, Reads (Reader.value Reader.maxLevels text.toList) j rest ∧ j.fields? = some fields) ↔
        ∃ s ms, Reader.skip text.toList = '{' :: s ∧
          Reader.Body (Reader.value (Reader.maxLevels - 1)) s ms rest ∧ fields = .ofList ms :=
    Reader.exists_reads_value_iff
  simp only [read_eq_ok_iff, Reader.text_eq_ok_iff]
  constructor
  · rintro ⟨j, ⟨rest, hread, hrest⟩, hj⟩
    obtain ⟨s, ms, hs, hbody, hms⟩ := hobject.1 ⟨j, hread, hj⟩
    exact ⟨ms, ⟨s, rest, hs, hbody, hrest⟩, hms⟩
  · rintro ⟨ms, ⟨s, rest, hs, hbody, hrest⟩, hms⟩
    obtain ⟨j, hread, hj⟩ := hobject.2 ⟨s, ms, hs, hbody, hms⟩
    exact ⟨j, ⟨rest, hread, hrest⟩, hj⟩

end KeywordValues.Json
