import KeywordValues.Proofs.Decimal
import KeywordValues.TypedValue

/-!
# Arrays as a reader is shown them

The text of an array is that of its items with commas between them. Where the items of a kind have
texts that are not empty, are free of commas and tell the items apart, the text of an array tells
its items: they are what stands between the commas. This goes for integers and booleans, and not for
texts, which may hold commas or be empty.
-/

namespace KeywordValues

/-! ## Texts with commas between them -/

theorem Json.joinComma_eq_intercalate (ts : List (List Char)) :
    Json.joinComma ts = [','].intercalate ts := by
  induction ts with
  | nil => rfl
  | cons t ts ih =>
      cases ts with
      | nil => exact (List.append_nil t).symm
      | cons u ts =>
          rw [Json.joinComma, ih]
          · rfl
          · exact List.cons_ne_nil u ts

/-! ## Whole numbers -/

namespace Decimal

theorem natural_injective : Function.Injective natural := by
  intro m n h
  calc
    m = Nat.ofDigitChars 10 (natural m) 0 := Nat.ofDigitChars_ten_toDigits.symm
    _ = Nat.ofDigitChars 10 (natural n) 0 := by rw [h]
    _ = n := Nat.ofDigitChars_ten_toDigits

/-- The digits of a number have no sign in front. -/
theorem natural_ne_minus_cons (n : Nat) (cs : List Char) : natural n ≠ '-' :: cs := by
  intro h
  have hminus : isDigit '-' = true := isDigit_of_mem_natural (h ▸ List.mem_cons_self)
  exact absurd hminus (by decide)

theorem integer_injective : Function.Injective integer := by
  intro i j h
  cases i with
  | ofNat m =>
      cases j with
      | ofNat n => exact congrArg Int.ofNat (natural_injective h)
      | negSucc n => exact absurd h (natural_ne_minus_cons m _)
  | negSucc m =>
      cases j with
      | ofNat n => exact absurd h.symm (natural_ne_minus_cons n _)
      | negSucc n =>
          have hsucc : m + 1 = n + 1 := natural_injective (List.tail_eq_of_cons_eq h)
          exact congrArg Int.negSucc (Nat.succ.inj hsucc)

theorem comma_not_mem_integer (i : Int) : ',' ∉ integer i := by
  intro h
  have hcomma : isNumeralChar ',' = true := (Signed.integer i).chars ',' h
  exact absurd hcomma (by decide)

theorem integer_ne_nil (i : Int) : integer i ≠ [] := by
  obtain ⟨c, cs, h, -⟩ := exists_integer_eq_cons i
  rw [h]
  exact List.cons_ne_nil c cs

end Decimal

/-! ## Kinds whose items can be told from the text of an array -/

/-- The texts of the scalars of a kind are not empty, are free of commas and tell them apart. -/
structure ScalarKind.Separable (k : ScalarKind) : Prop where
  ne_nil : ∀ v : k.Carrier, (Scalar.ofCarrier k v).chars ≠ []
  comma_not_mem : ∀ v : k.Carrier, ',' ∉ (Scalar.ofCarrier k v).chars
  injective : Function.Injective fun v : k.Carrier ↦ (Scalar.ofCarrier k v).chars

theorem ScalarKind.Separable.integer : Separable .integer where
  ne_nil i := Decimal.integer_ne_nil i.toInt
  comma_not_mem i := Decimal.comma_not_mem_integer i.toInt
  injective := by
    intro i j h
    exact Int64.toInt_inj.1 (Decimal.integer_injective h)

theorem ScalarKind.Separable.boolean : Separable .boolean where
  ne_nil := by decide
  comma_not_mem := by decide
  injective := by
    unfold Function.Injective
    decide

namespace TypedValue

variable {k : ScalarKind} {vs ws : List k.Carrier}

/-- What stands between the commas of the text of a value. -/
def pieces (v : TypedValue) : List String := (v.display.toList.splitOn ',').map String.ofList

theorem toList_display (v : TypedValue) : v.display.toList = v.toNode.chars := String.toList_ofList

/-- The texts of the items of an array. -/
def itemTexts (vs : List k.Carrier) : List (List Char) :=
  vs.map fun v ↦ (Scalar.ofCarrier k v).chars

theorem toList_display_array (vs : List k.Carrier) :
    (array k vs).display.toList = [','].intercalate (itemTexts vs) := by
  rw [toList_display, toNode, Node.chars, Json.joinComma_eq_intercalate, List.map_map]
  rfl

/-- The text of an array is made of the texts that its items have as single values. -/
theorem display_array (vs : List k.Carrier) :
    (array k vs).display = ",".intercalate (vs.map fun v ↦ (scalar k v).display) := by
  apply String.toList_inj.1
  rw [toList_display_array, String.toList_intercalate, List.map_map]
  apply congrArg
  apply List.map_congr_left
  intro v _
  exact (toList_display (scalar k v)).symm

/-- The items of an array can be read off its text, if there are any. -/
theorem splitOn_display_array (hk : k.Separable) (hvs : vs ≠ []) :
    (array k vs).display.toList.splitOn ',' = itemTexts vs := by
  rw [toList_display_array]
  apply List.splitOn_intercalate
  · intro t ht
    obtain ⟨v, -, rfl⟩ := List.mem_map.1 ht
    exact hk.comma_not_mem v
  · exact mt List.map_eq_nil_iff.1 hvs

theorem display_array_eq_empty_iff (hk : k.Separable) :
    (array k vs).display = "" ↔ vs = [] := by
  constructor
  · intro h
    cases vs with
    | nil => rfl
    | cons v vs =>
        -- an empty text would have one piece without characters
        have hsplit := splitOn_display_array hk (List.cons_ne_nil v vs)
        rw [h] at hsplit
        exact absurd (List.head_eq_of_cons_eq hsplit).symm (hk.ne_nil v)
  · rintro rfl
    rfl

/-- The text of an array determines its items. -/
theorem display_array_injective (hk : k.Separable)
    (h : (array k vs).display = (array k ws).display) : vs = ws := by
  by_cases hvs : vs = []
  · subst hvs
    exact ((display_array_eq_empty_iff hk).1 h.symm).symm
  · have hws : ws ≠ [] := fun hws ↦ by
      rw [hws] at h
      exact hvs ((display_array_eq_empty_iff hk).1 h)
    have htexts : itemTexts vs = itemTexts ws := by
      rw [← splitOn_display_array hk hvs, h, splitOn_display_array hk hws]
    exact (List.map_inj_right fun _ _ heq ↦ hk.injective heq).1 htexts

theorem pieces_array (hk : k.Separable) (hvs : vs ≠ []) :
    pieces (array k vs) = vs.map fun v ↦ (scalar k v).display := by
  rw [pieces, splitOn_display_array hk hvs, itemTexts, List.map_map]
  rfl

/-- The text of an array is that of its items with commas between them, and is empty if there are
none. Arrays of integers have one text only if they are equal, and so have arrays of booleans, and
the pieces between the commas are the texts of their items. -/
theorem display_array_unambiguous :
    (∀ (k : ScalarKind) (vs : List k.Carrier),
      (array k vs).display = ",".intercalate (vs.map fun v ↦ (scalar k v).display)) ∧
    (∀ k, (array k []).display = "") ∧
    ∀ k ∈ [ScalarKind.integer, .boolean],
      (∀ vs ws : List k.Carrier,
        (array k vs).display = (array k ws).display ↔ array k vs = array k ws) ∧
      ∀ vs : List k.Carrier, vs ≠ [] →
        pieces (array k vs) = vs.map (fun v ↦ (scalar k v).display) ∧
          (pieces (array k vs)).length = (array k vs).size := by
  refine ⟨fun k vs ↦ display_array vs, fun k ↦ rfl, fun k hk ↦ ?_⟩
  have hk : k.Separable := by
    rcases List.mem_cons.1 hk with rfl | hk
    · exact .integer
    · obtain rfl := List.mem_singleton.1 hk
      exact .boolean
  refine ⟨fun vs ws ↦ ⟨fun h ↦ ?_, fun h ↦ ?_⟩, fun vs hvs ↦ ?_⟩
  · rw [display_array_injective hk h]
  · rw [h]
  · have hpieces := pieces_array hk hvs
    refine ⟨hpieces, ?_⟩
    rw [hpieces, List.length_map]
    rfl

/-- The least integer and another one are told apart in the text of their array. -/
theorem display_array_unambiguous_two_integers :
    let v := array .integer [-9223372036854775808, 20]
    ScalarKind.integer ∈ [ScalarKind.integer, .boolean] ∧ v.display = "-9223372036854775808,20" ∧
      pieces v = ["-9223372036854775808", "20"] ∧ (pieces v).length = 2 := by
  intro v
  have hk : ScalarKind.integer ∈ [ScalarKind.integer, .boolean] := .head _
  have hv : [-9223372036854775808, (20 : Int64)] ≠ [] := List.cons_ne_nil _ _
  obtain ⟨hpieces, hlength⟩ := (display_array_unambiguous.2.2 _ hk).2 _ hv
  exact ⟨hk, by decide, hpieces.trans (by decide), hlength⟩

example : (array .string ["a,b"]).display = (array .string ["a", "b"]).display := by decide

end TypedValue

end KeywordValues
