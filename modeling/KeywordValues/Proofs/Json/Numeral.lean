import KeywordValues.Json.Reader
import KeywordValues.Proofs.Decimal
import KeywordValues.Proofs.Json.Quoted
import Mathlib.Algebra.Group.Int.Defs
import Mathlib.Algebra.Group.Nat.Defs

/-!
# Integers are read by their digits

The digits of a natural number are read as the number's numeral, as long as nothing that continues
the numeral follows them. The value of the numeral of an integer is this integer if it is one of 64
bits. Otherwise it is the double that is made of the digits left when those at the end are dropped
until the others fit 64 bits.
-/

namespace KeywordValues

open Decimal (isDigit digitValue natural integer Numeral Word)

/-! ## Words -/

namespace Decimal.Word

variable {i : Int}

theorem ofInt?_eq_some_iff {w : Word} : ofInt? i = some w ↔ w.val = i := by
  rw [ofInt?]
  constructor
  · intro h
    split at h <;> cases h
    rfl
  · rintro rfl
    exact dif_pos ⟨w.lower, w.upper⟩

theorem ofInt?_eq_none (h : i < -2 ^ 63 ∨ 2 ^ 64 ≤ i) : ofInt? i = none := dif_neg (by omega)

end Decimal.Word

/-! ## Numerals -/

namespace Decimal.Numeral

variable {ds : List Nat} {d n k : Nat}

/-- How many digits are left out from the end of a number until it fits 64 bits. -/
structure Excess (n k : Nat) : Prop where
  fits : n / 10 ^ k < UInt64.size
  least : ∀ j < k, UInt64.size ≤ n / 10 ^ j

theorem excess_zero (h : n < UInt64.size) : Excess n 0 where
  fits := by rwa [Nat.pow_zero, Nat.div_one]
  least := nofun

theorem Excess.eq_zero (h : Excess n k) (hn : n < UInt64.size) : k = 0 := by
  refine Nat.eq_zero_of_not_pos fun hk ↦ ?_
  have hle := h.least 0 hk
  rw [Nat.pow_zero, Nat.div_one] at hle
  exact Nat.not_le_of_lt hn hle

/-- One digit more is left out of a number that does not fit than of its tenth. -/
theorem excess_succ_iff : Excess n (k + 1) ↔ UInt64.size ≤ n ∧ Excess (n / 10) k := by
  have hdiv (j : Nat) : n / 10 / 10 ^ j = n / 10 ^ (j + 1) := by
    rw [Nat.div_div_eq_div_mul, Nat.pow_succ, Nat.mul_comm]
  constructor
  · intro h
    have hn := h.least 0 (Nat.succ_pos k)
    rw [Nat.pow_zero, Nat.div_one] at hn
    exact ⟨hn, (hdiv k).symm ▸ h.fits,
      fun j hj ↦ (hdiv j).symm ▸ h.least (j + 1) (Nat.succ_lt_succ hj)⟩
  · rintro ⟨hn, h⟩
    refine ⟨hdiv k ▸ h.fits, fun j hj ↦ ?_⟩
    cases j with
    | zero => rwa [Nat.pow_zero, Nat.div_one]
    | succ j => exact hdiv j ▸ h.least j (Nat.lt_of_succ_lt_succ hj)

theorem exists_excess (n : Nat) : ∃ k, Excess n k := by
  induction n using Nat.strongRecOn with
  | ind n ih =>
      by_cases hn : n < UInt64.size
      · exact ⟨0, excess_zero hn⟩
      · have hn := Nat.le_of_not_lt hn
        have hpos : 0 < n := Nat.lt_of_lt_of_le (by decide) hn
        obtain ⟨k, hk⟩ := ih (n / 10) (Nat.div_lt_self hpos (by decide))
        exact ⟨k + 1, excess_succ_iff.2 ⟨hn, hk⟩⟩

/-- Nineteen digits fit 64 bits, so only those behind them are left out. -/
theorem Excess.le_of_lt {b m : Nat} (h : Excess n k) (hn : n < 10 ^ b) (hb : b ≤ m + 19) :
    k ≤ m := by
  refine Nat.le_of_not_lt fun hk ↦ ?_
  have hlt : n / 10 ^ m < 10 ^ 19 := by
    refine Nat.div_lt_of_lt_mul ?_
    rw [← Nat.pow_add]
    exact Nat.lt_of_lt_of_le hn (Nat.pow_le_pow_right (by decide) hb)
  exact absurd (Nat.lt_of_le_of_lt (h.least m hk) hlt) (by decide)

/-- The last digit is taken if all others are and it fits. -/
theorem extend_concat (s : Nat) (ds : List Nat) (d : Nat) :
    extend s (ds ++ [d]) =
      if (extend s ds).2 = 0 ∧ (extend s ds).1 * 10 + d < UInt64.size then
        ((extend s ds).1 * 10 + d, 0)
      else ((extend s ds).1, (extend s ds).2 + 1) := by
  induction ds generalizing s with
  | nil => simp [extend]
  | cons e ds ih =>
      rw [List.cons_append, extend, extend]
      split
      · exact ih (s * 10 + e)
      · simp

theorem digitValue_digitChar (h : d < 10) : digitValue (Nat.digitChar d) = d := by
  have hall : ∀ d : Fin 10, digitValue (Nat.digitChar d) = d := by decide
  exact hall ⟨d, h⟩

theorem map_digitValue_natural (n : Nat) : (natural n).map digitValue =
    if n < 10 then [n] else (natural (n / 10)).map digitValue ++ [n % 10] := by
  rw [natural, Nat.toDigits_eq_if (by decide)]
  split
  · rename_i h
    rw [List.map_singleton, digitValue_digitChar h]
  · have hlast : n % 10 < 10 := Nat.mod_lt n (by decide)
    rw [List.map_append, List.map_singleton, digitValue_digitChar hlast, natural]

/-- The significand of a number is what is left of it when it fits 64 bits. -/
theorem extend_natural (h : Excess n k) :
    extend 0 ((natural n).map digitValue) = (n / 10 ^ k, k) := by
  induction n using Nat.strongRecOn generalizing k with
  | ind n ih =>
      rw [map_digitValue_natural]
      split
      · rename_i hn
        have hlt : n < UInt64.size := Nat.lt_trans hn (by decide)
        obtain rfl := h.eq_zero hlt
        simp [extend, hlt]
      · rename_i hn
        have htenth : n / 10 < n := by omega
        have hdigits : n / 10 * 10 + n % 10 = n := Nat.div_add_mod' n 10
        rw [extend_concat]
        cases k with
        | zero =>
            have hlt : n < UInt64.size := by simpa using h.fits
            rw [ih (n / 10) htenth (excess_zero (Nat.lt_trans htenth hlt))]
            simp [hdigits, hlt]
        | succ k =>
            obtain ⟨hle, hk⟩ := excess_succ_iff.1 h
            rw [ih (n / 10) htenth hk, if_neg, Nat.div_div_eq_div_mul, Nat.pow_succ, Nat.mul_comm]
            rintro ⟨rfl, hlt⟩
            rw [Nat.pow_zero, Nat.div_one, hdigits] at hlt
            exact Nat.not_le_of_lt hlt hle

/-- The numeral of a whole number with a sign. -/
def ofNat (negative : Bool) (n : Nat) : Numeral :=
  ⟨negative, (natural n).map digitValue, [], none, true⟩

/-- The numeral of an integer. -/
def ofInt : Int → Numeral
  | .ofNat n => ofNat false n
  | .negSucc n => ofNat true (n + 1)

theorem ofInt_eq (i : Int) : ofInt i = ofNat (decide (i < 0)) i.natAbs := by
  cases i with
  | ofNat n =>
      have h : ¬ Int.ofNat n < 0 := Int.not_lt.2 (Int.natCast_nonneg n)
      rw [decide_eq_false h]
      rfl
  | negSucc n => rw [decide_eq_true (Int.negSucc_lt_zero n), ofInt, Int.natAbs_negSucc]

theorem significand_ofInt {i : Int} (h : Excess i.natAbs k) :
    (ofInt i).significand = (i.natAbs / 10 ^ k, (k : Int)) := by
  rw [ofInt_eq]
  simp only [significand, ofNat, extend_natural h, extend]
  rfl

/-- The value of the numeral of an integer is this integer if it is one of 64 bits, and otherwise
the double that its first digits give. -/
theorem value_ofInt {i : Int} (h : Excess i.natAbs k) : (ofInt i).value =
    match Word.ofInt? i with
    | some w => .whole w
    | none => (ofInt i).double (i.natAbs / 10 ^ k) k := by
  rw [value, significand_ofInt h]
  have hexponent : (ofInt i).exponent = none := by rw [ofInt_eq, ofNat]
  have hplain : (ofInt i).plain = true := by rw [ofInt_eq, ofNat]
  have hnegative : (ofInt i).negative = decide (i < 0) := by rw [ofInt_eq, ofNat]
  simp only [hexponent, hplain, hnegative]
  cases k with
  | zero =>
      have hsign : (if decide (i < 0) = true then -(i.natAbs : Int) else i.natAbs) = i := by
        simp only [decide_eq_true_eq]
        split <;> omega
      have hzero : (decide (i < 0) && i.natAbs == 0) = false := by
        simp only [Bool.and_eq_false_iff, decide_eq_false_iff_not, beq_eq_false_iff_ne]
        omega
      rw [Nat.pow_zero, Nat.div_one, hzero, hsign]
      rfl
  | succ k =>
      -- what does not fit is no integer of 64 bits
      have hlarge : UInt64.size ≤ i.natAbs := (excess_succ_iff.1 h).1
      have hnone : Word.ofInt? i = none :=
        Word.ofInt?_eq_none (by simp only [UInt64.size] at hlarge; omega)
      rw [hnone]
      exact if_neg Bool.false_ne_true

theorem value_ofInt_val (w : Word) : (ofInt w.val).value = .whole w := by
  have hlower := w.lower
  have hupper := w.upper
  rw [value_ofInt (excess_zero (by simp only [UInt64.size]; omega)),
    Word.ofInt?_eq_some_iff.2 rfl]

end Decimal.Numeral

namespace Json.Reader

variable {rest : List Char}

/-! ## Digits -/

/-- Nothing at the front of a text continues a numeral. -/
def Stops (rest : List Char) : Prop :=
  ∀ c ∈ rest.head?, isDigit c = false ∧ c ≠ '.' ∧ isExponentMark c = false

theorem stops_nil : Stops [] := nofun

theorem takeWhile_isDigit_append {cs : List Char} (h : ∀ c ∈ cs, isDigit c = true)
    (hr : Stops rest) :
    (cs ++ rest).takeWhile isDigit = cs ∧ (cs ++ rest).dropWhile isDigit = rest := by
  rw [List.takeWhile_append_of_pos h, List.dropWhile_append_of_pos h]
  cases rest with
  | nil => simp
  | cons c r => simp [(hr c rfl).1]

theorem digits_append {cs : List Char} (h : ∀ c ∈ cs, isDigit c = true) (hr : Stops rest) :
    digits (cs ++ rest) = cs.map digitValue ∧ skipDigits (cs ++ rest) = rest := by
  obtain ⟨htake, hdrop⟩ := takeWhile_isDigit_append h hr
  exact ⟨by rw [digits, htake], hdrop⟩

/-- The digits of a number other than zero do not start with a zero. -/
theorem head?_natural_ne_zero {n : Nat} (h : n ≠ 0) : (natural n).head? ≠ some '0' := by
  induction n using Nat.strongRecOn with
  | ind n ih =>
      rw [natural, Nat.toDigits_eq_if (by decide)]
      split
      · simpa using h
      · -- the digits in front of the last one are those of a tenth
        obtain ⟨d, ds, hd, -⟩ := Decimal.exists_natural_eq_cons (n / 10)
        have htenth := ih (n / 10) (by omega) (by omega)
        rw [hd] at htenth
        rw [← natural, hd]
        exact htenth

theorem natural_zero : natural 0 = ['0'] := Nat.toDigits_zero 10

/-! ## Numerals as texts -/

theorem reads_wholePart (n : Nat) (hr : Stops rest) :
    Reads (wholePart (natural n ++ rest)) ((natural n).map digitValue) rest := by
  have hdigits : ∀ c ∈ natural n, isDigit c = true := fun _ ↦ Decimal.isDigit_of_mem_natural
  by_cases hn : n = 0
  · subst hn
    have hnone : digits ([] ++ rest) = [] :=
      (digits_append (fun _ hc ↦ absurd hc List.not_mem_nil) hr).1
    rw [natural_zero]
    rw [List.nil_append] at hnone
    simp only [List.singleton_append, wholePart, if_true, hnone]
    exact ⟨_, rfl⟩
  · obtain ⟨hall, hrest⟩ := digits_append hdigits hr
    obtain ⟨d, ds, hd, hdigit⟩ := Decimal.exists_natural_eq_cons n
    have hzero : d ≠ '0' := by
      have hhead := head?_natural_ne_zero hn
      rw [hd] at hhead
      simpa using hhead
    rw [hd] at hall hrest ⊢
    have htail : skipDigits (ds ++ rest) = rest := by
      rwa [List.cons_append, skipDigits, List.dropWhile_cons_of_pos hdigit] at hrest
    rw [List.cons_append] at hall ⊢
    simp only [wholePart, if_neg hzero, hdigit, if_true, hall, htail]
    exact ⟨_, rfl⟩

theorem fraction?_of_stops (hr : Stops rest) :
    fraction? rest = .ok ⟨(none, rest), Nat.le_refl _⟩ := by
  have hpoint : ∀ r, rest ≠ '.' :: r := by
    rintro r rfl
    exact (hr _ rfl).2.1 rfl
  rw [fraction?]
  exact hpoint

theorem exponent?_of_stops (hr : Stops rest) :
    exponent? rest = .ok ⟨(none, rest), Nat.le_refl _⟩ := by
  cases rest with
  | nil => rfl
  | cons c r => simp only [exponent?, (hr c rfl).2.2, Bool.false_eq_true, if_false]

theorem reads_unsigned (negative : Bool) (n : Nat) (hr : Stops rest) :
    Reads (unsigned negative (natural n ++ rest)) (.ofNat negative n) rest := by
  obtain ⟨h, hwhole⟩ := reads_wholePart n hr
  simp only [unsigned, hwhole, fraction?_of_stops hr, exponent?_of_stops hr]
  exact ⟨_, rfl⟩

/-- The text of an integer is read as its numeral. -/
theorem exists_number_integer (i : Int) (hr : Stops rest) :
    ∃ h, number (integer i ++ rest) = ofNumeral ⟨.ofInt i, rest, h⟩ := by
  cases i with
  | ofNat n =>
      obtain ⟨h, hread⟩ := reads_unsigned false n hr
      have hminus : ∀ r, natural n ++ rest ≠ '-' :: r := by
        intro r heq
        obtain ⟨d, ds, hd, hdigit⟩ := Decimal.exists_natural_eq_cons n
        rw [hd, List.cons_append, List.cons.injEq] at heq
        exact absurd (heq.1 ▸ hdigit) (by decide)
      rw [integer, number]
      · simp only [hread]
        exact ⟨h, rfl⟩
      · exact hminus
  | negSucc n =>
      obtain ⟨h, hread⟩ := reads_unsigned true (n + 1) hr
      rw [integer, List.cons_append]
      simp only [number, hread]
      exact ⟨Nat.lt_succ_of_lt h, rfl⟩

/-- A whole number of 64 bits is read as itself. -/
theorem reads_number (w : Word) (hr : Stops rest) :
    Reads (number (integer w.val ++ rest)) (.whole w) rest := by
  obtain ⟨h, hnumber⟩ := exists_number_integer w.val hr
  rw [hnumber]
  simp only [ofNumeral, Numeral.value_ofInt_val]
  exact ⟨_, rfl⟩

end Json.Reader

end KeywordValues
