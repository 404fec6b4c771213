import KeywordValues.Decimal.Layout
import KeywordValues.Text.Blank

/-!
# Facts about decimal texts

The text of a whole number is a run of digits, perhaps behind a minus sign. The text of a finite
double starts in the same way and has digits, points, signs and the letter `e` in it, so that
nothing in it is blank.
-/

namespace KeywordValues.Decimal

variable {c : Char} {cs ds : List Char}

theorem isDigit_eq (c : Char) : isDigit c = c.isDigit := rfl

theorem isAlpha_eq_false_of_isDigit (h : isDigit c = true) : c.isAlpha = false := by
  obtain ⟨hlow, hhigh⟩ : 48 ≤ c.toNat ∧ c.toNat ≤ 57 := Char.isDigit_iff_toNat.1 h
  have h65 : ¬ 65 ≤ c.toNat := by omega
  have h97 : ¬ 97 ≤ c.toNat := by omega
  have hupper : c.isUpper = false := decide_eq_false fun h ↦ h65 h.1
  have hlower : c.isLower = false := Bool.and_eq_false_iff.2 (.inl (decide_eq_false h97))
  exact Bool.or_eq_false_iff.2 ⟨hupper, hlower⟩

/-- Whether a character occurs in the texts of numbers. -/
def isNumeralChar (c : Char) : Bool := isDigit c || c == '-' || c == '+' || c == '.' || c == 'e'

theorem isNumeralChar_of_isDigit (h : isDigit c = true) : isNumeralChar c = true := by
  simp [isNumeralChar, h]

theorem isBlank_eq_false_of_isNumeralChar (h : isNumeralChar c = true) :
    Text.isBlank c = false := by
  simp only [isNumeralChar, Bool.or_eq_true, beq_iff_eq, isDigit_eq] at h
  rcases h with (((h | rfl) | rfl) | rfl) | rfl
  · obtain ⟨hlow, hhigh⟩ : 48 ≤ c.toNat ∧ c.toNat ≤ 57 := Char.isDigit_iff_toNat.1 h
    simp only [Text.isBlank, Bool.or_eq_false_iff, Bool.and_eq_false_iff, beq_eq_false_iff_ne,
      decide_eq_false_iff_not]
    omega
  all_goals decide

/-! ## Whole numbers -/

theorem natural_ne_nil (n : Nat) : natural n ≠ [] := Nat.toDigits_ne_nil

theorem isDigit_of_mem_natural {n : Nat} (h : c ∈ natural n) : isDigit c = true :=
  Nat.isDigit_of_mem_toDigits (by decide) (by decide) h

theorem exists_natural_eq_cons (n : Nat) : ∃ d ds, natural n = d :: ds ∧ isDigit d = true := by
  obtain ⟨d, ds, hd⟩ := List.exists_cons_of_ne_nil (natural_ne_nil n)
  exact ⟨d, ds, hd, isDigit_of_mem_natural (hd ▸ List.mem_cons_self ..)⟩

theorem exists_integer_eq_cons (i : Int) :
    ∃ c cs, integer i = c :: cs ∧ (c = '-' ∨ isDigit c = true) := by
  cases i with
  | ofNat n =>
      obtain ⟨d, ds, hd, hdigit⟩ := exists_natural_eq_cons n
      exact ⟨d, ds, hd, .inr hdigit⟩
  | negSucc n => exact ⟨_, _, rfl, .inl rfl⟩

/-! ## Texts of numbers -/

/-- A text of characters of numbers that starts with a digit. -/
structure Unsigned (cs : List Char) : Prop where
  head : ∃ d ∈ cs.head?, isDigit d = true
  chars : ∀ c ∈ cs, isNumeralChar c = true

/-- Such a text, perhaps behind a minus sign. -/
def Signed (cs : List Char) : Prop := Unsigned cs ∨ ∃ ds, cs = '-' :: ds ∧ Unsigned ds

theorem Unsigned.of_digits (hne : cs ≠ []) (h : ∀ c ∈ cs, isDigit c = true) : Unsigned cs where
  head := ⟨cs.head hne, List.head?_eq_some_head hne, h _ (List.head_mem hne)⟩
  chars c hc := isNumeralChar_of_isDigit (h c hc)

theorem Unsigned.append (h : Unsigned cs) (hds : ∀ c ∈ ds, isNumeralChar c = true) :
    Unsigned (cs ++ ds) where
  head := by
    obtain ⟨d, hd, hdigit⟩ := h.head
    exact ⟨d, by rw [List.head?_append, hd]; rfl, hdigit⟩
  chars c hc := (List.mem_append.1 hc).elim (h.chars c) (hds c)

theorem Unsigned.natural (n : Nat) : Unsigned (natural n) :=
  .of_digits (natural_ne_nil n) fun _ ↦ isDigit_of_mem_natural

theorem Signed.integer (i : Int) : Signed (integer i) := by
  cases i with
  | ofNat n => exact .inl (.natural n)
  | negSucc n => exact .inr ⟨_, rfl, .natural (n + 1)⟩

theorem Signed.chars (h : Signed cs) : ∀ c ∈ cs, isNumeralChar c = true := by
  rcases h with h | ⟨ds, rfl, h⟩
  · exact h.chars
  · exact List.forall_mem_cons.2 ⟨by decide, h.chars⟩

/-- The first character of the text of a number is no letter. -/
theorem Signed.head (h : Signed cs) : ∃ c ∈ cs.head?, c.isAlpha = false := by
  rcases h with h | ⟨ds, rfl, -⟩
  · obtain ⟨d, hd, hdigit⟩ := h.head
    exact ⟨d, hd, isAlpha_eq_false_of_isDigit hdigit⟩
  · exact ⟨'-', rfl, by decide⟩

namespace Layout

theorem unsigned_positional (hne : ds ≠ []) (h : ∀ c ∈ ds, isDigit c = true) (p : Int) :
    Unsigned (positional ds p) := by
  have hzero (n : Nat) : ∀ c ∈ List.replicate n '0', isNumeralChar c = true := by
    intro c hc
    rw [List.eq_of_mem_replicate hc]
    decide
  have hds : Unsigned ds := .of_digits hne h
  unfold positional
  split
  · have hpoint : Unsigned ['0', '.'] := ⟨⟨'0', rfl, rfl⟩, List.all_eq_true.1 rfl⟩
    refine hpoint.append fun c hc ↦ ?_
    exact (List.mem_append.1 hc).elim (hzero _ c) (hds.chars c)
  · split
    · exact (hds.append (hzero _)).append (List.all_eq_true.1 rfl)
    · have htake : Unsigned (ds.take p.toNat) := by
        refine .of_digits ?_ fun c hc ↦ h c (List.mem_of_mem_take hc)
        rw [Ne, List.take_eq_nil_iff, not_or]
        exact ⟨by omega, hne⟩
      refine htake.append (List.forall_mem_cons.2 ⟨by decide, fun c hc ↦ ?_⟩)
      exact hds.chars c (List.mem_of_mem_drop hc)

theorem unsigned_scientific (l : Layout) (hne : ds ≠ []) (h : ∀ c ∈ ds, isDigit c = true)
    (x : Int) : Unsigned (l.scientific ds x) := by
  have hexponent : ∀ c ∈ 'e' :: ((if l.plusSign && 0 ≤ x then ['+'] else []) ++ integer x),
      isNumeralChar c = true := by
    refine List.forall_mem_cons.2 ⟨by decide, fun c hc ↦ ?_⟩
    rcases List.mem_append.1 hc with hc | hc
    · split at hc
      · exact (List.mem_singleton.1 hc).symm ▸ by decide
      · cases hc
    · exact (Signed.integer x).chars c hc
  unfold scientific
  refine Unsigned.append ?_ hexponent
  split
  · obtain ⟨hd, hes⟩ := List.forall_mem_cons.1 h
    refine ⟨⟨_, rfl, hd⟩, List.forall_mem_cons.2 ⟨isNumeralChar_of_isDigit hd, ?_⟩⟩
    exact List.forall_mem_cons.2 ⟨by decide, fun c hc ↦ isNumeralChar_of_isDigit (hes c hc)⟩
  · exact .of_digits hne h

theorem unsigned_magnitude (l : Layout) (b : UInt64) : Unsigned (l.magnitude b) := by
  have hdigits (n : Nat) : ∀ c ∈ natural n, isDigit c = true := fun _ ↦ isDigit_of_mem_natural
  unfold magnitude
  simp only
  split
  · exact unsigned_positional (natural_ne_nil _) (hdigits _) _
  · exact unsigned_scientific l (natural_ne_nil _) (hdigits _) _

/-- The text of a double is that of a number, unless it is one of the three that are not finite. -/
theorem render_cases (l : Layout) (x : Float) : Signed (l.render x) ∨
    l.render x ∈ [l.nan.toList, l.infinity.toList, l.minusInfinity.toList] := by
  unfold render
  simp only
  split
  · exact .inr (by simp)
  · split
    · refine .inr ?_
      split <;> split <;> simp
    · refine .inl ?_
      split
      · have hzero : Unsigned "0.0".toList := ⟨⟨'0', rfl, rfl⟩, List.all_eq_true.1 rfl⟩
        split
        · exact .inl hzero
        · exact .inr ⟨_, rfl, hzero⟩
      · split
        · exact .inl (unsigned_magnitude l _)
        · exact .inr ⟨_, rfl, unsigned_magnitude l _⟩

/-- In JSON the texts of the values that are not finite are all the same word. -/
theorem render_json_cases (x : Float) :
    Signed (json.render x) ∨ json.render x = "null".toList := by
  simpa [json] using render_cases json x

end Layout

end KeywordValues.Decimal
