import KeywordValues.Conversion
import KeywordValues.Proofs.DoubleRange

/-!
# Integers as numbers

An integer is widened by rounding it to 53 bits. A significand that loses bits keeps one bit for the
first of them and one for all the others, and these tell on which side of the middle the value lies.
So the rounded value is off by half a unit at most, which is at most one part in `2 ^ 53` of it, and
an integer up to `2 ^ 53` keeps its value.
-/

namespace KeywordValues

namespace Decimal

open Float.Model Float.Model.UnpackedFloat

/-! ## Rounding to the nearest -/

/-- A significand and the two bits behind it tell where a value lies: at the significand, before the
middle to the next one, in the middle, or behind it. -/
def Keeps (x : ExtendedMantissa) (q : ℚ) : Prop :=
  match x.roundBit, x.stickyBit with
  | false, false => q = x.mantissa
  | false, true => x.mantissa < q ∧ q < x.mantissa + 1 / 2
  | true, false => q = x.mantissa + 1 / 2
  | true, true => x.mantissa + 1 / 2 < q ∧ q < x.mantissa + 1

theorem keeps_exact (m : Nat) : Keeps (.ofMantissaAndAccuracy m .exact) m := rfl

/-- A bit less halves the value. -/
theorem Keeps.shiftRightOne {x : ExtendedMantissa} {q : ℚ} (h : Keeps x q) :
    Keeps x.shiftRightOne (q / 2) := by
  obtain ⟨m, round, sticky⟩ := x
  have hm : (m : ℚ) = (m % 2 : Nat) + 2 * (m / 2 : Nat) := by
    exact_mod_cast (Nat.mod_add_div m 2).symm
  rcases Nat.mod_two_eq_zero_or_one m with hbit | hbit
  · have hround : (m % 2 != 0) = false := by rw [hbit]; rfl
    rw [hbit, Nat.cast_zero] at hm
    cases round <;> cases sticky <;>
      simp only [Keeps, ExtendedMantissa.shiftRightOne, hround, Bool.or_false, Bool.or_true] at h ⊢
    · linarith
    all_goals constructor <;> linarith
  · have hround : (m % 2 != 0) = true := by rw [hbit]; rfl
    rw [hbit, Nat.cast_one] at hm
    cases round <;> cases sticky <;>
      simp only [Keeps, ExtendedMantissa.shiftRightOne, hround, Bool.or_false, Bool.or_true] at h ⊢
    · linarith
    all_goals constructor <;> linarith

theorem Keeps.shiftRight {x : ExtendedMantissa} {q : ℚ} (h : Keeps x q) (k : Nat) :
    Keeps (x >>> k) (q / 2 ^ k) := by
  induction k with
  | zero => rwa [pow_zero, div_one]
  | succ k ih =>
      rw [pow_succ, ← div_div]
      exact ih.shiftRightOne

/-- The rounded significand is the nearest one. -/
theorem Keeps.abs_sub_le {x : ExtendedMantissa} {q : ℚ} (h : Keeps x q) :
    |(x.roundedMantissa : ℚ) - q| ≤ 1 / 2 := by
  obtain ⟨m, round, sticky⟩ := x
  rw [abs_le]
  cases round <;> cases sticky <;>
    simp only [Keeps, ExtendedMantissa.roundedMantissa, ExtendedMantissa.accuracy,
      Accuracy.roundToNearestEven] at h ⊢
  · constructor <;> linarith
  · constructor <;> linarith
  · rcases Nat.mod_two_eq_zero_or_one m with hbit | hbit <;> rw [hbit] <;> push_cast <;>
      constructor <;> linarith
  · push_cast
    constructor <;> linarith

/-- A significand of 53 bits, with an exponent that a double can have. -/
structure Normal (m : Nat) (e : Int) : Prop where
  two_pow_le : 2 ^ 52 ≤ m
  lt_two_pow : m < 2 ^ 53
  exponent_ge : -1074 ≤ e
  exponent_le : e ≤ 971

/-- The exponent that a significand of 53 bits or more is shifted to. -/
theorem targetExponent_of_le_log2 {m : Nat} {e : Int} (hm : 52 ≤ m.log2) (he : -1074 ≤ e) :
    Format.binary64.targetExponent (totalExponent m e) = e + (m.log2 - 52 : Nat) := by
  simp only [Format.targetExponent, totalExponent, Format.mantissaBits, Format.minExponent]
  omega

theorem shiftToTargetExponent_of_le_log2 {m : Nat} {e : Int} (hm : 52 ≤ m.log2)
    (he : -1074 ≤ e) : shiftToTargetExponent .binary64 m e .exact =
      (ExtendedMantissa.ofMantissaAndAccuracy m .exact >>> (m.log2 - 52),
        e + (m.log2 - 52 : Nat)) := by
  have hshift : (e + (m.log2 - 52 : Nat) - e).toNat = m.log2 - 52 := by omega
  rw [shiftToTargetExponent, targetExponent_of_le_log2 hm he, shiftToExponent, hshift]

/-- A significand that was rounded up to `2 ^ 53` is halved, and every other one stays. -/
theorem exists_shiftToTargetExponent {r : Nat} {e : Int} (hlow : 2 ^ 52 ≤ r) (hhigh : r ≤ 2 ^ 53)
    (he : -1074 ≤ e) (he' : e ≤ 970) : ∃ m e',
      shiftToTargetExponent .binary64 r e .exact = (.ofMantissaAndAccuracy m .exact, e') ∧
      Normal m e' ∧ (m : ℚ) * 2 ^ e' = r * 2 ^ e := by
  rcases hhigh.lt_or_eq with hlt | rfl
  · have hlog : r.log2 = 52 := (Nat.log2_eq_iff (by omega)).2 ⟨hlow, hlt⟩
    refine ⟨r, e, ?_, ⟨hlow, hlt, he, by omega⟩, rfl⟩
    rw [shiftToTargetExponent_of_le_log2 hlog.ge he, hlog]
    exact Prod.ext rfl (add_zero e)
  · have hlog : (2 ^ 53).log2 = 53 := Nat.log2_two_pow
    refine ⟨2 ^ 52, e + 1, ?_, ⟨le_rfl, by decide, by omega, by omega⟩, ?_⟩
    · have hbits : 52 ≤ (2 ^ 53).log2 := by omega
      rw [shiftToTargetExponent_of_le_log2 hbits he, hlog]
      rfl
    · rw [zpow_add_one₀ two_ne_zero]
      push_cast
      ring

/-! ## The error -/

/-- Without the bits behind the first 53 a value lies in the range of significands. -/
theorem two_pow_le_div_and_lt {m : Nat} (hm : 52 ≤ m.log2) :
    2 ^ 52 ≤ (m : ℚ) / 2 ^ (m.log2 - 52) ∧ (m : ℚ) / 2 ^ (m.log2 - 52) < 2 ^ 53 := by
  have hne : m ≠ 0 := fun h ↦ by simp [h] at hm
  have hpow : (0 : ℚ) < 2 ^ (m.log2 - 52) := by positivity
  constructor
  · rw [le_div_iff₀ hpow, ← pow_add, Nat.add_sub_cancel' hm]
    exact_mod_cast Nat.log2_self_le hne
  · rw [div_lt_iff₀ hpow, ← pow_add, show 53 + (m.log2 - 52) = m.log2 + 1 by omega]
    exact_mod_cast Nat.lt_log2_self

/-- The rounded value is in that range too, or at its upper end. -/
theorem le_and_le_of_abs_sub_le {r : Nat} {q : ℚ} (h : |(r : ℚ) - q| ≤ 1 / 2)
    (hlow : 2 ^ 52 ≤ q) (hhigh : q < 2 ^ 53) : 2 ^ 52 ≤ r ∧ r ≤ 2 ^ 53 := by
  obtain ⟨hbelow, habove⟩ := abs_le.1 h
  have hlow' : (2 ^ 52 : ℚ) < r + 1 := by linarith
  have hhigh' : (r : ℚ) < 2 ^ 53 + 1 := by linarith
  exact ⟨Nat.le_of_lt_succ (by exact_mod_cast hlow'),
    Nat.le_of_lt_succ (by exact_mod_cast hhigh')⟩

/-- Two whole numbers are the same if they are not further apart than the middle between two. -/
theorem eq_of_abs_sub_le {m n : Nat} (h : |(m : ℚ) - n| ≤ 1 / 2) : m = n := by
  have hlt : |((m - n : Int) : ℚ)| < 1 := by
    push_cast
    exact h.trans_lt (by norm_num)
  rw [← Int.cast_abs, ← Int.cast_one, Int.cast_lt, Int.abs_lt_one_iff] at hlt
  omega

/-- No bit is lost of 53 bits, and none that is set of the 54 bits of `2 ^ 53`. -/
theorem exists_div_eq_natCast {m : Nat} (hm : 52 ≤ m.log2) (hsmall : m ≤ 2 ^ 53) :
    ∃ n : Nat, (m : ℚ) / 2 ^ (m.log2 - 52) = n := by
  rcases hsmall.lt_or_eq with hlt | rfl
  · have hlog : m.log2 = 52 :=
      le_antisymm (Nat.le_of_lt_succ ((Nat.log2_lt fun h ↦ by simp [h] at hm).2 hlt)) hm
    exact ⟨m, by rw [hlog, Nat.sub_self, pow_zero, div_one]⟩
  · refine ⟨2 ^ 52, ?_⟩
    rw [Nat.log2_two_pow]
    norm_num

/-- A significand of 53 bits or more is rounded to 53 bits. The value is off by at most one part in
`2 ^ 53`, and by nothing if there are at most 53 bits, or 54 in a power of two. -/
theorem exists_roundWithAccuracy (s : Sign) {m : Nat} {e : Int} (hm : 52 ≤ m.log2)
    (he : -1074 ≤ e) (he' : m.log2 + e ≤ 1022) : ∃ n e' h,
      roundWithAccuracy .binary64 s m e .exact = .finite s n e' h ∧ Normal n e' ∧
      2 ^ 53 * |(n : ℚ) * 2 ^ e' - m * 2 ^ e| ≤ m * 2 ^ e ∧
      (m ≤ 2 ^ 53 → (n : ℚ) * 2 ^ e' = m * 2 ^ e) := by
  let k := m.log2 - 52
  let x := ExtendedMantissa.ofMantissaAndAccuracy m .exact >>> k
  let r := x.roundedMantissa
  have hk : k + 52 = m.log2 := Nat.sub_add_cancel hm
  have hnear : |(r : ℚ) - m / 2 ^ k| ≤ 1 / 2 := ((keeps_exact m).shiftRight k).abs_sub_le
  obtain ⟨hlow, hhigh⟩ := two_pow_le_div_and_lt hm
  obtain ⟨hr, hr'⟩ := le_and_le_of_abs_sub_le hnear hlow hhigh
  obtain ⟨n, e', hcarry, hnormal, hvalue⟩ :=
    exists_shiftToTargetExponent hr hr' (by omega : -1074 ≤ e + k) (by omega)
  have hpos : 0 < n := Nat.lt_of_lt_of_le (by decide) hnormal.two_pow_le
  -- Both values as multiples of the unit that the significand is rounded to.
  have hunit : (0 : ℚ) < 2 ^ k * 2 ^ e := by positivity
  have hm' : (m : ℚ) * 2 ^ e = m / 2 ^ k * (2 ^ k * 2 ^ e) := by
    rw [← mul_assoc, div_mul_cancel₀ _ (by positivity)]
  have hn : (n : ℚ) * 2 ^ e' = r * (2 ^ k * 2 ^ e) := by
    rw [hvalue, zpow_add₀ two_ne_zero, zpow_natCast, mul_comm (2 ^ e)]
  refine ⟨n, e', hpos, ?_, hnormal, ?_, fun hsmall ↦ ?_⟩
  · rw [roundWithAccuracy, shiftToTargetExponent_of_le_log2 hm he]
    simp only
    rw [hcarry]
    exact dif_neg hpos.ne'
  · rw [hn, hm', ← sub_mul, abs_mul, abs_of_pos hunit, ← mul_assoc]
    refine mul_le_mul_of_nonneg_right ?_ hunit.le
    linarith
  · obtain ⟨j, hj⟩ := exists_div_eq_natCast hm hsmall
    rw [hj] at hnear
    rw [hn, hm', hj, eq_of_abs_sub_le hnear]

/-! ## Bit patterns -/

theorem unpackSign_packComponents (s : Sign) (x : BitVec 11) (f : BitVec 52) :
    unpackSign (packComponents .binary64 s x f) = s.toBitVec := by
  change (s.toBitVec ++ x ++ f).extractLsb' 63 1 = s.toBitVec
  rw [BitVec.extractLsb'_append_eq_of_le (by decide),
    BitVec.extractLsb'_append_eq_of_le (by decide)]
  exact BitVec.extractLsb'_eq_self

theorem ofBitVec_toBitVec (s : Sign) : Sign.ofBitVec s.toBitVec = s := by
  cases s <;> rfl

/-- The leading bit of a significand of 53 bits is not in the pattern. -/
theorem toNat_one_append {m : Nat} (hlow : 2 ^ 52 ≤ m) (hhigh : m < 2 ^ 53) :
    (1#1 ++ BitVec.ofNat 52 m).toNat = m := by
  have hlt : m % 2 ^ 52 < 2 ^ 52 := Nat.mod_lt _ (by decide)
  rw [BitVec.toNat_append, BitVec.toNat_ofNat, BitVec.toNat_ofNat,
    ← Nat.shiftLeft_add_eq_or_of_lt hlt, Nat.shiftLeft_eq]
  omega

/-- A significand of 53 bits with its exponent has a bit pattern of its own. -/
theorem Normal.unpack_pack {m : Nat} {e : Int} (h : Normal m e) (s : Sign) (hm : 0 < m) :
    UnpackedFloat.unpack .binary64 (UnpackedFloat.pack .binary64 (.finite s m e hm)) =
      .finite s m e hm := by
  obtain ⟨hlow, hhigh, he, he'⟩ := h
  have hlog : m.log2 = 52 := (Nat.log2_eq_iff hm.ne').2 ⟨hlow, hhigh⟩
  let x := BitVec.ofNat 11 (e + 1075).toNat
  have hx : x.toNat = (e + 1075).toNat := by
    rw [BitVec.toNat_ofNat]
    omega
  have hpack : UnpackedFloat.pack .binary64 (.finite s m e hm) =
      packComponents .binary64 s x (BitVec.ofNat 52 m) := by
    have hfits : ¬ 2 ^ 11 ≤ (e + (1023 : Nat) + (52 : Nat)).toNat + 1 := by omega
    have hbiased : (e + (1023 : Nat) + (52 : Nat)).toNat = (e + 1075).toNat := by omega
    have hbits : 52 + 1 = Format.binary64.mantissaBits := rfl
    unfold UnpackedFloat.pack
    simp only
    rw [exponentBias_binary64, if_neg hfits, hlog, if_pos hbits, hbiased]
  have hones : x ≠ -1#11 := by
    intro h
    have hnat : (-1#11).toNat = 2047 := rfl
    rw [h, hnat] at hx
    omega
  have hzero : x ≠ 0#11 := by
    intro h
    have hnat : (0#11).toNat = 0 := rfl
    rw [h, hnat] at hx
    omega
  rw [hpack]
  unfold UnpackedFloat.unpack
  simp only [unpackExponent_packComponents, unpackMantissa_packComponents,
    unpackSign_packComponents, ofBitVec_toBitVec, if_neg hones, if_neg hzero,
    toNat_one_append hlow hhigh]
  rw [UnpackedFloat.finite.injEq, exponentBias_binary64, hx]
  exact ⟨rfl, rfl, by omega⟩

/-! ## Values -/

/-- The value of what is finite. -/
def rational? : UnpackedFloat → Option ℚ
  | .zero _ => some 0
  | .finite s m e _ => some (s.apply m * 2 ^ e)
  | .infinity _ | .notANumber => none

theorem isFinite_of_rational?_eq_some {f : UnpackedFloat} {q : ℚ} (h : rational? f = some q) :
    f.isFinite = true := by
  cases f with
  | zero s => rfl
  | finite s m e hm => rfl
  | _ => cases h

theorem log2_shiftLeft {n : Nat} (hpos : 0 < n) (k : Nat) : (n <<< k).log2 = n.log2 + k := by
  have hk : 0 < 2 ^ k := Nat.two_pow_pos k
  rw [Nat.shiftLeft_eq, Nat.log2_eq_iff (Nat.mul_pos hpos hk).ne', Nat.add_right_comm, pow_add,
    pow_add]
  exact ⟨Nat.mul_le_mul_right _ (Nat.log2_self_le hpos.ne'),
    Nat.mul_lt_mul_of_pos_right Nat.lt_log2_self hk⟩

/-- A positive number of 64 bits is rounded to 53 bits. -/
theorem exists_round (s : Sign) {n : Nat} (hpos : 0 < n) (hn : n < 2 ^ 64) : ∃ m e h,
    UnpackedFloat.round .binary64 s n 0 = .finite s m e h ∧ Normal m e ∧
      2 ^ 53 * |(m : ℚ) * 2 ^ e - n| ≤ n ∧ (n ≤ 2 ^ 53 → (m : ℚ) * 2 ^ e = n) := by
  -- A shorter significand is filled up to 53 bits first, which does not change the value.
  let k := 52 - n.log2
  have hlog : n.log2 < 64 := (Nat.log2_lt hpos.ne').2 hn
  have hfilled : (n <<< k).log2 = n.log2 + k := log2_shiftLeft hpos k
  have hround : UnpackedFloat.round .binary64 s n 0 =
      roundWithAccuracy .binary64 s (n <<< k) (-k) .exact := by
    have hshift : (0 - Format.binary64.targetExponent (totalExponent n 0)).toNat = k := by
      simp only [Format.targetExponent, totalExponent, Format.mantissaBits, Format.minExponent]
      omega
    rw [UnpackedFloat.round]
    simp only [decreaseExponent, hshift]
    rw [zero_sub]
  have hvalue : ((n <<< k : Nat) : ℚ) * 2 ^ (-k : Int) = n := by
    rw [Nat.shiftLeft_eq, zpow_neg, zpow_natCast]
    push_cast
    exact mul_inv_cancel_right₀ (by positivity) _
  obtain ⟨m, e, h, heq, hnormal, hnear, hexact⟩ :=
    exists_roundWithAccuracy s (m := n <<< k) (e := -k) (by omega) (by omega) (by omega)
  rw [hvalue] at hnear hexact
  refine ⟨m, e, h, hround.trans heq, hnormal, hnear, fun hsmall ↦ hexact ?_⟩
  rcases hsmall.lt_or_eq with hlt | rfl
  · have hlt' : n <<< k < 2 ^ ((n <<< k).log2 + 1) := Nat.lt_log2_self
    have hbits : n.log2 < 53 := (Nat.log2_lt hpos.ne').2 hlt
    rw [hfilled, show n.log2 + k + 1 = 53 by omega] at hlt'
    exact hlt'.le
  · have hk : k = 0 := by
      have hbits : (2 ^ 53).log2 = 53 := Nat.log2_two_pow
      omega
    rw [hk, Nat.shiftLeft_zero]

/-- The double of a number of 64 bits with a sign is off by at most one part in `2 ^ 53`, and has the
value of the number up to `2 ^ 53`. -/
theorem exists_rational?_round (s : Sign) {n : Nat} (hpos : 0 < n) (hn : n < 2 ^ 64) : ∃ q,
    rational? (UnpackedFloat.unpack .binary64
      (UnpackedFloat.pack .binary64 (UnpackedFloat.round .binary64 s n 0))) = some q ∧
      2 ^ 53 * |q - s.apply n| ≤ n ∧ (n ≤ 2 ^ 53 → q = s.apply n) := by
  obtain ⟨m, e, hm, hround, hnormal, hnear, hexact⟩ := exists_round s hpos hn
  rw [hround, hnormal.unpack_pack]
  refine ⟨_, rfl, ?_, fun hsmall ↦ ?_⟩
  · cases s with
    | positive => exact hnear
    | negative =>
        simp only [Sign.apply, Int.cast_neg, Int.cast_natCast, neg_mul, ← neg_sub', abs_neg]
        exact hnear
  · have hvalue := hexact hsmall
    cases s with
    | positive => exact hvalue
    | negative =>
        simp only [Sign.apply, Int.cast_neg, Int.cast_natCast, neg_mul, hvalue]

/-- The same of integers. -/
theorem exists_rational?_ofInt {n : Int} (h : n.natAbs < 2 ^ 64) : ∃ q,
    rational? (UnpackedFloat.unpack .binary64
      (UnpackedFloat.pack .binary64 (UnpackedFloat.ofInt .binary64 n))) = some q ∧
      2 ^ 53 * |q - n| ≤ n.natAbs ∧ (n.natAbs ≤ 2 ^ 53 → q = n) := by
  unfold UnpackedFloat.ofInt UnpackedFloat.normalize
  split
  · rename_i hneg
    rw [Int.compare_eq_lt] at hneg
    have habs : (-n).toNat = n.natAbs := by omega
    have happly : Sign.negative.apply n.natAbs = n := by
      simp only [Sign.apply]
      omega
    have hround := exists_rational?_round .negative (Int.natAbs_pos.2 hneg.ne) h
    rw [habs]
    rwa [happly] at hround
  · rename_i hzero
    rw [Int.compare_eq_eq] at hzero
    subst hzero
    exact ⟨0, rfl, by simp, fun _ ↦ rfl⟩
  · rename_i hpos
    rw [Int.compare_eq_gt] at hpos
    have habs : n.toNat = n.natAbs := by omega
    have happly : Sign.positive.apply n.natAbs = n := by
      simp only [Sign.apply]
      omega
    have hround := exists_rational?_round .positive (Int.natAbs_pos.2 hpos.ne') h
    rw [habs]
    rwa [happly] at hround

end Decimal

namespace Scalar

open Decimal

variable (i : Int64)

theorem natAbs_toInt_lt : i.toInt.natAbs < 2 ^ 64 := by
  have hlow := i.le_toInt
  have hhigh := i.toInt_lt
  omega

/-- A widened integer is off by at most one part in `2 ^ 53`, and up to `2 ^ 53` it keeps its
value. -/
theorem exists_rational?_widen : ∃ q, rational? (widen i).toModel.unpack = some q ∧
    2 ^ 53 * |q - i.toInt| ≤ i.toInt.natAbs ∧ (i.toInt.natAbs ≤ 2 ^ 53 → q = i.toInt) :=
  exists_rational?_ofInt (natAbs_toInt_lt i)

/-- No integer is widened to an infinity. -/
theorem isFinite_widen : (widen i).isFinite = true := by
  obtain ⟨q, hq, -⟩ := exists_rational?_widen i
  exact isFinite_of_rational?_eq_some hq

variable {i j : Int64}

/-- Different integers up to `2 ^ 53` are widened to different numbers. -/
theorem eq_of_widen_eq (hi : i.toInt.natAbs ≤ 2 ^ 53) (hj : j.toInt.natAbs ≤ 2 ^ 53)
    (h : widen i = widen j) : i = j := by
  obtain ⟨p, hp, -, hvalue⟩ := exists_rational?_widen i
  obtain ⟨q, hq, -, hvalue'⟩ := exists_rational?_widen j
  rw [h, hq, Option.some.injEq] at hp
  have hcast : (j.toInt : ℚ) = i.toInt := by rw [← hvalue' hj, hp, hvalue hi]
  exact Int64.toInt_inj.1 (Int.cast_injective hcast).symm

/-- The first integer behind the bound shares its number with the one before. -/
example : widen 9007199254740993 = widen 9007199254740992 := by rfl

end Scalar

end KeywordValues
