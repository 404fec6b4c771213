import KeywordValues.Json.Printer
import KeywordValues.Proofs.Json.Members
import KeywordValues.Proofs.Json.Numeral

/-!
# Printed values are read back

The compact text of a value without doubles is read as that value with the members of each object in
the order of their names, if it is no deeper than the reader goes. So a value in whose objects the
names ascend is read as it is. Each reader is shown to take its part off the front of a text
whatever follows, as long as it ends a numeral.
-/

namespace KeywordValues.Json

/-! ## What a text holds -/

mutual

/-- The value that the compact text of a value holds. The members of each object are listed in the
order of their names, and of several with one name the last counts. -/
def sorted : Json → Json
  | .null => .null
  | .bool b => .bool b
  | .whole w => .whole w
  | .double x => .double x
  | .string s => .string s
  | .array items => .array (sortedItems items)
  | .object members => ofFields (.ofList (sortedMembers members))

/-- The values that the texts of the items of an array hold. -/
def sortedItems : List Json → List Json
  | [] => []
  | j :: js => sorted j :: sortedItems js

/-- The members of an object with the values that their texts hold. -/
def sortedMembers : List (String × Json) → List (String × Json)
  | [] => []
  | (k, j) :: ms => (k, sorted j) :: sortedMembers ms

end

theorem sortedItems_eq_map (js : List Json) : sortedItems js = js.map sorted := by
  induction js with
  | nil => rfl
  | cons j js ih => rw [sortedItems, List.map_cons, ih]

theorem sortedMembers_eq_map (ms : List (String × Json)) :
    sortedMembers ms = ms.map fun m ↦ (m.1, m.2.sorted) := by
  induction ms with
  | nil => rfl
  | cons m ms ih =>
      obtain ⟨k, j⟩ := m
      rw [sortedMembers, List.map_cons, ih]

theorem sorted_string (s : String) : sorted (.string s) = .string s := rfl

theorem sorted_array (js : List Json) : sorted (.array js) = .array (js.map sorted) := by
  rw [sorted, sortedItems_eq_map]

theorem sorted_object (ms : List (String × Json)) :
    sorted (.object ms) = ofFields (.ofList (ms.map fun m ↦ (m.1, m.2.sorted))) := by
  rw [sorted, sortedMembers_eq_map]

/-- A value without doubles, and with at most `levels` arrays and objects around any part of it. -/
inductive Plain : (levels : Nat) → Json → Prop where
  | null {n : Nat} : Plain n .null
  | bool {n : Nat} (b : Bool) : Plain n (.bool b)
  | whole {n : Nat} (w : Decimal.Word) : Plain n (.whole w)
  | string {n : Nat} (s : String) : Plain n (.string s)
  | array {n : Nat} {js : List Json} (hitems : ∀ j ∈ js, Plain n j) : Plain (n + 1) (.array js)
  | object {n : Nat} {ms : List (String × Json)} (hmembers : ∀ m ∈ ms, Plain n m.2) :
      Plain (n + 1) (.object ms)

/-- A value without doubles, in whose objects the names ascend, and with at most `levels` arrays and
objects around any part of it. -/
inductive Exact : (levels : Nat) → Json → Prop where
  | null {n : Nat} : Exact n .null
  | bool {n : Nat} (b : Bool) : Exact n (.bool b)
  | whole {n : Nat} (w : Decimal.Word) : Exact n (.whole w)
  | string {n : Nat} (s : String) : Exact n (.string s)
  | array {n : Nat} {js : List Json} (hitems : ∀ j ∈ js, Exact n j) : Exact (n + 1) (.array js)
  | object {n : Nat} {ms : List (String × Json)} (hascending : ms.Pairwise (·.1 < ·.1))
      (hmembers : ∀ m ∈ ms, Exact n m.2) : Exact (n + 1) (.object ms)

theorem Exact.plain {n : Nat} {j : Json} (h : Exact n j) : Plain n j := by
  induction h with
  | null => exact .null
  | bool b => exact .bool b
  | whole w => exact .whole w
  | string s => exact .string s
  | array _ ih => exact .array ih
  | object _ _ ih => exact .object ih

/-- A value in whose objects the names ascend already is what its text holds. -/
theorem Exact.sorted_eq {n : Nat} {j : Json} (h : Exact n j) : j.sorted = j := by
  induction h with
  | null => rfl
  | bool b => rfl
  | whole w => rfl
  | string s => rfl
  | array _ ih => rw [sorted_array, List.map_congr_left ih, List.map_id']
  | object hascending _ ih =>
      have hms := List.map_congr_left fun m hm ↦ congrArg (Prod.mk m.1) (ih m hm)
      rw [sorted_object, hms, List.map_id', NameMap.ofList_eq hascending]
      rfl

namespace Reader

open Decimal (isDigit integer)

variable {item : Scanner Json} {level : Option (Scanner Json)} {j : Json} {js : List Json}
  {ms : List (String × Json)} {n : Nat} {s t u rest : List Char} {c : Char} {k : String}

/-- A reader takes the text of a value off the front of every text in which it ends there. -/
def ReadsBack (item : Scanner Json) (j : Json) : Prop :=
  ∀ {rest : List Char}, Stops rest → Reads (item (j.chars ++ rest)) j.sorted rest

/-! ## First characters -/

/-- Whether a character may come first in a value. -/
def begins (c : Char) : Bool := !isSpace c && c != ']'

theorem skip_cons (h : begins c = true) (s : List Char) : skip (c :: s) = c :: s := by
  rw [begins, Bool.and_eq_true, Bool.not_eq_true'] at h
  exact List.dropWhile_cons_of_neg (by rw [h.1]; decide)

theorem ne_of_begins (h : begins c = true) : c ≠ ']' := by
  rintro rfl
  exact absurd h (by decide)

/-- What no digit is differs from every digit. -/
theorem ne_of_isDigit {d : Char} (h : isDigit c = true) (hd : isDigit d = false) : c ≠ d := by
  rintro rfl
  exact absurd (h.symm.trans hd) (by decide)

theorem begins_of_isDigit (h : isDigit c = true) : begins c = true := by
  simp only [begins, isSpace, Bool.and_eq_true, Bool.not_eq_true', Bool.or_eq_false_iff,
    beq_eq_false_iff_ne, bne_iff_ne]
  exact ⟨⟨⟨⟨ne_of_isDigit h rfl, ne_of_isDigit h rfl⟩, ne_of_isDigit h rfl⟩, ne_of_isDigit h rfl⟩,
    ne_of_isDigit h rfl⟩

/-- The text of a value starts with a character that may come first in a value. -/
theorem exists_chars_eq_cons (h : Plain n j) : ∃ c s, j.chars = c :: s ∧ begins c = true := by
  cases h with
  | null => exact ⟨'n', _, rfl, rfl⟩
  | bool b =>
      cases b with
      | false => exact ⟨'f', _, rfl, rfl⟩
      | true => exact ⟨'t', _, rfl, rfl⟩
  | whole w =>
      obtain ⟨c, s, hs, hc⟩ := Decimal.exists_integer_eq_cons w.val
      exact ⟨c, s, hs, hc.elim (fun h ↦ h ▸ rfl) begins_of_isDigit⟩
  | string s => exact ⟨'"', _, rfl, rfl⟩
  | array => exact ⟨'[', _, rfl, rfl⟩
  | object => exact ⟨'{', _, rfl, rfl⟩

/-- What stands behind a value in an array or an object continues no numeral. -/
theorem stops_delimiter (h : c ∈ [',', ']', '}']) (s : List Char) : Stops (c :: s) := by
  simp only [List.mem_cons, List.not_mem_nil, or_false] at h
  rintro d hd
  cases hd
  rcases h with rfl | rfl | rfl <;> decide

theorem joinComma_append (a b : List Char) (ts : List (List Char)) (s : List Char) :
    joinComma (a :: b :: ts) ++ s = a ++ ',' :: (joinComma (b :: ts) ++ s) := by
  rw [joinComma, List.append_assoc, List.cons_append]
  exact List.cons_ne_nil b ts

theorem exists_joinComma_eq_cons (c : Char) (a : List Char) (ts : List (List Char))
    (s : List Char) : ∃ u, joinComma ((c :: a) :: ts) ++ s = c :: u := by
  cases ts with
  | nil => exact ⟨_, rfl⟩
  | cons b ts => exact ⟨_, rfl⟩

/-! ## Words and numerals -/

theorem readsBack_null : ReadsBack (bare level) .null := fun _ ↦ ⟨_, rfl⟩

theorem readsBack_bool (b : Bool) : ReadsBack (bare level) (.bool b) := by
  intro rest _
  cases b with
  | false => exact ⟨_, rfl⟩
  | true => exact ⟨_, rfl⟩

theorem bare_of_numeral (h : c = '-' ∨ isDigit c = true) :
    bare level (c :: s) = number (c :: s) := by
  -- so none of the characters that begin other values is in front
  have hne {d : Char} (hd : ¬ (d = '-' ∨ isDigit d = true)) : c ≠ d := fun hcd ↦ hd (hcd ▸ h)
  have hnested : ¬ (c = '[' ∨ c = '{') := not_or.2 ⟨hne (by decide), hne (by decide)⟩
  rw [bare.eq_def]
  dsimp only
  rw [if_neg (hne (by decide)), if_neg hnested, if_neg (hne (by decide)),
    if_neg (hne (by decide)), if_neg (hne (by decide)), if_pos h]

theorem readsBack_whole (w : Decimal.Word) : ReadsBack (bare level) (.whole w) := by
  intro rest hrest
  have hnumber := reads_number w hrest
  obtain ⟨c, s, hs, hc⟩ := Decimal.exists_integer_eq_cons w.val
  rw [chars]
  rw [hs, List.cons_append] at hnumber ⊢
  rwa [bare_of_numeral hc]

theorem readsBack_string (s : String) : ReadsBack (bare level) (.string s) := by
  intro rest _
  obtain ⟨h, hread⟩ := Quoted.decode_encode s rest
  rw [chars, Quoted.quote, List.cons_append, List.append_assoc, List.singleton_append]
  simp only [bare, if_true, hread]
  exact ⟨_, rfl⟩

/-! ## Arrays -/

theorem exists_joinComma_itemChars (h : Plain n j) (js : List Json) (s : List Char) :
    ∃ c u, joinComma (itemChars (j :: js)) ++ s = c :: u ∧ begins c = true := by
  obtain ⟨c, a, hj, hc⟩ := exists_chars_eq_cons h
  obtain ⟨u, hu⟩ := exists_joinComma_eq_cons c a (itemChars js) s
  exact ⟨c, u, by rw [itemChars, hj, hu], hc⟩

theorem reads_items_last (hread : Reads (item s) j (']' :: rest)) (before : List Json)
    (h : s.length ≤ t.length) :
    Reads (items item t before s h) (before.reverse ++ [j]) rest := by
  obtain ⟨hs, hread⟩ := hread
  rw [items, ← List.reverse_cons]
  simp only [hread]
  exact ⟨_, rfl⟩

theorem items_more (hread : Reads (item s) j (',' :: c :: u)) (hc : begins c = true)
    (before : List Json) (h : s.length ≤ t.length) (h' : (c :: u).length ≤ t.length) :
    items item t before s h = items item t (j :: before) (c :: u) h' := by
  obtain ⟨hs, hread⟩ := hread
  have hcomma : skip (',' :: c :: u) = ',' :: c :: u := rfl
  rw [items]
  simp only [hread]
  split
  · rename_i hk
    cases hcomma.symm.trans hk
  · rename_i hk
    cases hcomma.symm.trans hk
    rw [if_neg (by decide), if_pos rfl, skip_cons hc]
    split
    · rename_i hcons
      cases hcons
    · rename_i hcons
      cases hcons
      exact absurd rfl (ne_of_begins hc)
    · rfl

/-- The items of an array are read if the values of their number of levels are. -/
theorem reads_items (hread : ∀ {j}, Plain n j → ReadsBack item j) (hplain : ∀ j ∈ js, Plain n j)
    (hne : js ≠ []) (before : List Json)
    (h : (joinComma (itemChars js) ++ ']' :: rest).length ≤ t.length) :
    Reads (items item t before (joinComma (itemChars js) ++ ']' :: rest) h)
      (before.reverse ++ js.map sorted) rest := by
  induction js generalizing before with
  | nil => exact absurd rfl hne
  | cons j js ih =>
      have ⟨hj, hjs⟩ := List.forall_mem_cons.1 hplain
      cases js with
      | nil => exact reads_items_last (hread hj (stops_delimiter (by decide) _)) before h
      | cons i is =>
          -- the reader looks at the first character behind the comma, which begins a value
          obtain ⟨c, u, hu, hc⟩ :=
            exists_joinComma_itemChars (hjs i (List.mem_cons_self ..)) is (']' :: rest)
          have hfirst : Reads (item (j.chars ++ ',' :: c :: u)) j.sorted (',' :: c :: u) :=
            hread hj (stops_delimiter (by decide) _)
          rw [hu] at ih
          revert h
          rw [itemChars, itemChars, joinComma_append, ← itemChars, hu]
          intro h
          have h' : (c :: u).length ≤ t.length := by
            simp only [List.length_append, List.length_cons] at h ⊢
            omega
          rw [items_more hfirst hc before h h', List.map_cons, List.append_cons,
            ← List.reverse_cons]
          exact ih hjs (List.cons_ne_nil _ _) (j.sorted :: before) h'

theorem array_of_begins (hc : begins c = true) (hitems : Reads (items item (c :: u) [] (c :: u)
    (length_le_self _)) js rest) : Reads (array item (c :: u)) (.array js) rest := by
  obtain ⟨h, hitems⟩ := hitems
  rw [array]
  split
  · rename_i hk
    cases (skip_cons hc u).symm.trans hk
  · rename_i hk
    cases (skip_cons hc u).symm.trans hk
    exact absurd rfl (ne_of_begins hc)
  · rw [hitems]
    exact ⟨_, rfl⟩

theorem reads_array (hread : ∀ {j}, Plain n j → ReadsBack item j) (hplain : ∀ j ∈ js, Plain n j) :
    Reads (array item (joinComma (itemChars js) ++ ']' :: rest)) (.array (js.map sorted)) rest := by
  cases js with
  | nil => exact ⟨_, rfl⟩
  | cons j js =>
      obtain ⟨c, u, hu, hc⟩ :=
        exists_joinComma_itemChars (hplain j (List.mem_cons_self ..)) js (']' :: rest)
      rw [hu]
      refine array_of_begins hc ?_
      rw [← hu]
      exact reads_items hread hplain (List.cons_ne_nil _ _) [] (length_le_self _)

/-! ## Objects -/

theorem reads_memberValue (hread : Reads (item s) j rest) :
    Reads (memberValue item (':' :: s)) j rest := by
  obtain ⟨h, hread⟩ := hread
  have hcolon : skip (':' :: s) = ':' :: s := rfl
  rw [memberValue]
  split
  · rename_i hk
    cases hcolon.symm.trans hk
  · rename_i hk
    cases hcolon.symm.trans hk
    simp only [hread]
    exact ⟨_, rfl⟩
  · rename_i hk
    exact absurd hcolon (hk s)

/-- The text of a member behind the quote that opens its name. -/
def memberTail (k : String) (j : Json) : List Char :=
  Quoted.encode k.toList ++ '"' :: ':' :: j.chars

theorem memberChars_cons (k : String) (j : Json) (ms : List (String × Json)) :
    memberChars ((k, j) :: ms) = ('"' :: memberTail k j) :: memberChars ms := by
  rw [memberChars, Quoted.quote, memberTail, List.cons_append, List.append_assoc,
    List.singleton_append]

theorem reads_member (hread : ReadsBack item j) (hrest : Stops rest) :
    Reads (member item (memberTail k j ++ rest)) (k, j.sorted) rest := by
  have hvalue : Reads (memberValue item (':' :: (j.chars ++ rest))) j.sorted rest :=
    reads_memberValue (hread hrest)
  obtain ⟨h, hvalue⟩ := hvalue
  obtain ⟨h', hname⟩ := Quoted.decode_encode k (':' :: (j.chars ++ rest))
  rw [memberTail, List.append_assoc, List.cons_append, List.cons_append]
  simp only [member, hname, hvalue]
  exact ⟨_, rfl⟩

/-- The text of the members of an object is read if the values of their number of levels are. -/
theorem members_memberChars (hread : ∀ {j}, Plain n j → ReadsBack item j)
    (hplain : ∀ m ∈ ms, Plain n m.2) (hne : ms ≠ [])
    (hs : joinComma (memberChars ms) ++ '}' :: rest = '"' :: s) :
    Members item s (ms.map fun m ↦ (m.1, m.2.sorted)) rest := by
  induction ms generalizing s with
  | nil => exact absurd rfl hne
  | cons m ms ih =>
      have ⟨hm, hms⟩ := List.forall_mem_cons.1 hplain
      obtain ⟨k, j⟩ := m
      rw [memberChars_cons] at hs
      cases ms with
      | nil =>
          cases hs
          exact .last (reads_member (hread hm) (stops_delimiter (by decide) rest)) rfl
      | cons m' ms =>
          obtain ⟨k', j'⟩ := m'
          rw [memberChars_cons, joinComma_append] at hs
          obtain ⟨u, hu⟩ := exists_joinComma_eq_cons '"' (memberTail k' j') (memberChars ms)
            ('}' :: rest)
          -- the quote behind the comma is taken before the next name is read
          obtain rfl : memberTail k j ++ ',' :: '"' :: u = s := List.tail_eq_of_cons_eq (hu ▸ hs)
          have hfirst : Reads (member item (memberTail k j ++ ',' :: '"' :: u)) (k, j.sorted)
              (',' :: '"' :: u) := reads_member (hread hm) (stops_delimiter (by decide) _)
          refine .more hfirst rfl rfl (ih hms (List.cons_ne_nil _ _) ?_)
          rw [memberChars_cons, hu]

theorem body_memberChars (hread : ∀ {j}, Plain n j → ReadsBack item j)
    (hplain : ∀ m ∈ ms, Plain n m.2) :
    Body item (joinComma (memberChars ms) ++ '}' :: rest) (ms.map fun m ↦ (m.1, m.2.sorted))
      rest := by
  cases ms with
  | nil => exact .empty rfl
  | cons m ms =>
      obtain ⟨k, j⟩ := m
      obtain ⟨u, hu⟩ := exists_joinComma_eq_cons '"' (memberTail k j) (memberChars ms) ('}' :: rest)
      rw [← memberChars_cons] at hu
      rw [hu]
      exact .members rfl (members_memberChars hread hplain (List.cons_ne_nil _ _) hu)

theorem reads_object (hread : ∀ {j}, Plain n j → ReadsBack item j)
    (hplain : ∀ m ∈ ms, Plain n m.2) :
    Reads (object item (joinComma (memberChars ms) ++ '}' :: rest))
      (ofFields (.ofList (ms.map fun m ↦ (m.1, m.2.sorted)))) rest :=
  reads_object_iff.2 ⟨_, body_memberChars hread hplain, rfl⟩

/-! ## Values and texts -/

theorem readsBack_array (hread : ∀ {j}, Plain n j → ReadsBack item j)
    (hplain : ∀ j ∈ js, Plain n j) : ReadsBack (bare (some item)) (.array js) := by
  intro rest _
  have harray : Reads (array item (joinComma (itemChars js) ++ ']' :: rest))
      (.array (js.map sorted)) rest := reads_array hread hplain
  obtain ⟨h, harray⟩ := harray
  rw [sorted_array, chars, List.cons_append, List.append_assoc, List.singleton_append]
  simp only [bare, harray]
  exact ⟨_, rfl⟩

theorem readsBack_object (hread : ∀ {j}, Plain n j → ReadsBack item j)
    (hplain : ∀ m ∈ ms, Plain n m.2) : ReadsBack (bare (some item)) (.object ms) := by
  intro rest _
  have hobject : Reads (object item (joinComma (memberChars ms) ++ '}' :: rest))
      (ofFields (.ofList (ms.map fun m ↦ (m.1, m.2.sorted)))) rest := reads_object hread hplain
  obtain ⟨h, hobject⟩ := hobject
  rw [sorted_object, chars, List.cons_append, List.append_assoc, List.singleton_append]
  simp only [bare, hobject]
  exact ⟨_, rfl⟩

/-- What is read from the first character on is read behind space as well, and the text of a value
has no space in front. -/
theorem readsBack_spaced (h : Plain n j) (hread : ReadsBack (bare level) j) :
    ReadsBack (value.spaced level) j := by
  intro rest hrest
  obtain ⟨c, s, hs, hc⟩ := exists_chars_eq_cons h
  have hskip : skip (j.chars ++ rest) = j.chars ++ rest := by
    rw [hs, List.cons_append, skip_cons hc]
  have hbare : Reads (bare level (skip (j.chars ++ rest))) j.sorted rest := by
    rw [hskip]
    exact hread hrest
  obtain ⟨hlt, hbare⟩ := hbare
  simp only [value.spaced, hbare]
  exact ⟨_, rfl⟩

/-- A value is read back by a reader that goes as deep as the value. -/
theorem readsBack_value (h : Plain n j) : ReadsBack (value n) j := by
  induction n generalizing j with
  | zero =>
      refine readsBack_spaced h ?_
      cases h with
      | null => exact readsBack_null
      | bool b => exact readsBack_bool b
      | whole w => exact readsBack_whole w
      | string s => exact readsBack_string s
  | succ n ih =>
      refine readsBack_spaced h ?_
      cases h with
      | null => exact readsBack_null
      | bool b => exact readsBack_bool b
      | whole w => exact readsBack_whole w
      | string s => exact readsBack_string s
      | array hitems => exact readsBack_array ih hitems
      | object hmembers => exact readsBack_object ih hmembers

theorem stops_of_isSpace (hs : ∀ c ∈ s, isSpace c = true) : Stops s := by
  intro c hc
  have hspace := hs c (List.mem_of_mem_head? hc)
  simp only [isSpace, Bool.or_eq_true, beq_iff_eq] at hspace
  rcases hspace with ((rfl | rfl) | rfl) | rfl <;> decide

/-- The text of a value is read as what it holds, also with space behind it. -/
theorem text_chars_append (h : Plain maxLevels j) (hs : ∀ c ∈ s, isSpace c = true) :
    text (j.chars ++ s) = .ok j.sorted := by
  obtain ⟨hlt, hread⟩ := readsBack_value h (stops_of_isSpace hs)
  have hskip : skip s = [] := by
    rw [skip, ← List.append_nil s, List.dropWhile_append_of_pos hs, List.dropWhile_nil]
  simp only [text, hread, hskip]

end Reader

/-- The compact text of a value is read as what it holds, also with space behind it. -/
theorem read_print_append {j : Json} {t : String} (h : Plain Reader.maxLevels j)
    (ht : t.toList.all Reader.isSpace = true) : read (j.print ++ t) = .ok j.sorted := by
  rw [read, String.toList_append, toList_print,
    Reader.text_chars_append h (List.all_eq_true.1 ht)]

/-- The compact text of a value holds that value. -/
theorem read_print {j : Json} (h : Exact Reader.maxLevels j) : read j.print = .ok j := by
  have hread : read (j.print ++ "") = .ok j.sorted := read_print_append h.plain rfl
  rwa [String.append_empty, h.sorted_eq] at hread

/-- The compact text of an object lists its members in the order in which they are given. -/
theorem lists_print {ms : List (String × Json)} (h : Plain Reader.maxLevels (.object ms)) :
    Lists (object ms).print (ms.map fun m ↦ (m.1, m.2.sorted)) := by
  have hplain : Plain (Reader.maxLevels - 1 + 1) (.object ms) := h
  cases hplain with
  | object hmembers =>
      refine ⟨joinComma (memberChars ms) ++ ['}'], [], ?_,
        Reader.body_memberChars Reader.readsBack_value hmembers, rfl⟩
      rw [toList_print, chars]
      rfl

end KeywordValues.Json
