import KeywordValues.Decimal.Numeral
import Mathlib

/-!
# Products of doubles that stay finite

A finite double is a significand below `2 ^ 53` times a power of two. The product of two has a
significand below `2 ^ 106`, and rounding it back to 53 bits raises the exponent by at most 54. With
this, a number of 64 bits times a power of ten up to `10 ^ 288` is no infinity, however the two are
rounded.
-/

namespace KeywordValues.Decimal

open Float.Model Float.Model.UnpackedFloat

/-! ## Rounding -/

theorem mantissa_shiftRight (x : ExtendedMantissa) (n : Nat) :
    (x >>> n).mantissa = x.mantissa / 2 ^ n := by
  induction n with
  | zero => exact (Nat.div_one _).symm
  | succ n ih =>
      have hstep : (x >>> (n + 1)).mantissa = (x >>> n).mantissa / 2 := rfl
      rw [hstep, ih, Nat.div_div_eq_div_mul, Nat.pow_succ]

theorem roundedMantissa_le (x : ExtendedMantissa) : x.roundedMantissa ≤ x.mantissa + 1 := by
  obtain ⟨m, round, sticky⟩ := x
  cases round <;> cases sticky <;>
    simp only [ExtendedMantissa.roundedMantissa, ExtendedMantissa.accuracy,
      Accuracy.roundToNearestEven] <;> omega

/-- A mantissa that loses bits and is rounded up has at most one bit more than is left of it. -/
theorem log2_le_of_le_div_add_one {r m k : Nat} (h : r ≤ m / 2 ^ k + 1) :
    r.log2 = 0 ∨ r.log2 + k ≤ m.log2 + 1 := by
  rcases Nat.eq_zero_or_pos r.log2 with hl | hl
  · exact .inl hl
  · refine .inr (Nat.le_of_not_lt fun hlt ↦ ?_)
    have hr : 2 ^ r.log2 ≤ r := Nat.log2_self_le fun hr ↦ by simp [hr] at hl
    have hm : m < 2 ^ k * 2 ^ (r.log2 - 1) := by
      rw [← Nat.pow_add]
      exact Nat.lt_of_lt_of_le Nat.lt_log2_self (Nat.pow_le_pow_right (by decide) (by omega))
    have hdiv : m / 2 ^ k < 2 ^ (r.log2 - 1) := Nat.div_lt_of_lt_mul hm
    have hpow : 2 ^ r.log2 = 2 ^ (r.log2 - 1) * 2 := by
      rw [← Nat.pow_succ, Nat.succ_eq_add_one, Nat.sub_add_cancel hl]
    have hpos : 0 < 2 ^ (r.log2 - 1) := Nat.two_pow_pos _
    omega

/-- A value is finite, and its exponent is at most `b`. -/
def ExponentLe (b : Int) : UnpackedFloat → Prop
  | .zero _ => True
  | .finite _ _ e _ => e ≤ b
  | .infinity _ | .notANumber => False

instance (b : Int) : DecidablePred (ExponentLe b)
  | .zero _ => .isTrue trivial
  | .finite _ _ e _ => inferInstanceAs (Decidable (e ≤ b))
  | .infinity _ | .notANumber => .isFalse id

theorem ExponentLe.mono {f : UnpackedFloat} {a b : Int} (h : ExponentLe a f) (hab : a ≤ b) :
    ExponentLe b f := by
  cases f with
  | zero s => trivial
  | finite s m e hm => exact Int.le_trans h hab
  | _ => exact h

theorem ExponentLe.isFinite {f : UnpackedFloat} {b : Int} (h : ExponentLe b f) :
    f.isFinite = true := by
  cases f with
  | zero s => rfl
  | finite s m e hm => rfl
  | _ => exact h.elim

theorem isInf_eq_false_of_isFinite {f : UnpackedFloat} (h : f.isFinite = true) :
    f.isInf = false := by
  cases f with
  | infinity s => exact absurd h Bool.false_ne_true
  | _ => rfl

theorem add_toNat_targetExponent_le {m : Nat} {e b : Int} (he : e ≤ b)
    (hm : m.log2 + 1 + e ≤ b + 53) (hb : -1074 ≤ b) :
    e + (Format.binary64.targetExponent (totalExponent m e) - e).toNat ≤ b := by
  simp only [Format.targetExponent, totalExponent, Format.mantissaBits, Format.minExponent]
  omega

theorem exponentLe_roundWithAccuracy (s : Sign) {m : Nat} {e b : Int} (he : e ≤ b)
    (hm : m.log2 + 1 + e ≤ b + 52) (hb : -1074 ≤ b) :
    ExponentLe b (roundWithAccuracy .binary64 s m e .exact) := by
  let k := (Format.binary64.targetExponent (totalExponent m e) - e).toNat
  let r := (ExtendedMantissa.ofMantissaAndAccuracy m .exact >>> k).roundedMantissa
  have hr : r ≤ m / 2 ^ k + 1 := by
    have hle := roundedMantissa_le (ExtendedMantissa.ofMantissaAndAccuracy m .exact >>> k)
    rwa [mantissa_shiftRight] at hle
  have hfirst : e + k ≤ b := add_toNat_targetExponent_le he (by omega) hb
  have hbits : r.log2 + 1 + (e + k) ≤ b + 53 := by
    rcases log2_le_of_le_div_add_one hr with h | h <;> omega
  unfold roundWithAccuracy
  simp only
  split
  · trivial
  · exact add_toNat_targetExponent_le hfirst hbits hb

/-! ## Bit patterns -/

theorem exponentBias_binary64 : Format.binary64.exponentBias = 1023 := rfl

/-- The exponent of a bit pattern is the one that it encodes, or the least one. -/
theorem exponentLe_unpack {v : BitVec Format.binary64.numBits} {b : Int}
    (hv : (unpackExponent v).toNat ≤ b + 1075) (hlow : -1074 ≤ b) (hhigh : b ≤ 971) :
    ExponentLe b (UnpackedFloat.unpack .binary64 v) := by
  have hne : unpackExponent v ≠ -1#_ := by
    intro h
    have hones : (-1#11).toNat = 2047 := rfl
    rw [h, hones] at hv
    omega
  unfold UnpackedFloat.unpack
  simp only [hne, if_false]
  split
  · split
    · trivial
    · rename_i h _
      have hzero : (unpackExponent v).toNat = 0 := by
        rw [h]
        rfl
      simp only [ExponentLe, hzero, exponentBias_binary64]
      omega
  · simp only [ExponentLe, exponentBias_binary64]
    omega

theorem exponentLe_unpack_pack {f : UnpackedFloat} {b : Int} (hf : ExponentLe b f)
    (hlow : -1074 ≤ b) (hhigh : b ≤ 971) :
    ExponentLe b (UnpackedFloat.unpack .binary64 (UnpackedFloat.pack .binary64 f)) := by
  have hcomponents (s : Sign) (x : BitVec 11) (m : BitVec 52) (hx : x.toNat ≤ b + 1075) :
      ExponentLe b (UnpackedFloat.unpack .binary64 (packComponents .binary64 s x m)) := by
    refine exponentLe_unpack ?_ hlow hhigh
    rwa [unpackExponent_packComponents]
  have hleast (x : BitVec 11) (hx : x.toNat = 0) : x.toNat ≤ b + 1075 := by omega
  cases f with
  | infinity s => exact hf.elim
  | notANumber => exact hf.elim
  | zero s => exact hcomponents s 0#11 0 (hleast _ rfl)
  | finite s m e h =>
      have he : e ≤ b := hf
      unfold UnpackedFloat.pack
      simp only
      have hbiased : (e + (1023 : Nat) + (52 : Nat)).toNat ≤ b + 1075 := by omega
      have hfits : ¬ 2 ^ 11 ≤ (e + (1023 : Nat) + (52 : Nat)).toNat + 1 := by omega
      rw [exponentBias_binary64, if_neg hfits]
      split
      · refine hcomponents _ (BitVec.ofNat 11 _) _ ?_
        rw [BitVec.toNat_ofNat]
        exact Int.le_trans (Int.ofNat_le.2 (Nat.mod_le _ _)) hbiased
      · exact hcomponents _ 0#11 _ (hleast _ rfl)

theorem mantissa_lt_of_unpack {v : BitVec Format.binary64.numBits} {s : Sign} {m : Nat} {e : Int}
    {h : 0 < m} (hv : UnpackedFloat.unpack .binary64 v = .finite s m e h) : m < 2 ^ 53 := by
  unfold UnpackedFloat.unpack at hv
  simp only at hv
  split at hv
  · split at hv <;> cases hv
  · split at hv
    · split at hv <;> cases hv
      exact Nat.lt_trans (BitVec.isLt _) (by decide)
    · cases hv
      exact BitVec.isLt _

/-! ## Operations -/

/-- A double is finite, and its exponent is at most `b`. -/
def Within (b : Int) (x : Float) : Prop := ExponentLe b x.toModel.unpack

theorem Within.isFinite {x : Float} {b : Int} (h : Within b x) : x.isFinite = true :=
  ExponentLe.isFinite h

theorem log2_mul_le {m n : Nat} (hm : m < 2 ^ 53) (hn : n < 2 ^ 53) : (m * n).log2 ≤ 105 := by
  by_cases h : m * n = 0
  · rw [h]
    decide
  · have hlt : m * n < 2 ^ 106 :=
      Nat.lt_of_lt_of_le (Nat.mul_lt_mul'' hm hn) (by decide)
    exact Nat.le_of_lt_succ ((Nat.log2_lt h).2 hlt)

/-- The exponent of a product is bounded by the sum of the factors' and 54. -/
theorem ExponentLe.mul {f g : UnpackedFloat} {a b : Int} (hf : ExponentLe a f)
    (hg : ExponentLe b g) (hfm : ∀ s m e h, f = .finite s m e h → m < 2 ^ 53)
    (hgm : ∀ s m e h, g = .finite s m e h → m < 2 ^ 53) (hlow : -1128 ≤ a + b) :
    ExponentLe (a + b + 54) (f.mul .binary64 g) := by
  cases f with
  | zero s =>
      cases g with
      | zero t => trivial
      | finite t n y h' => trivial
      | _ => exact hg.elim
  | finite s m x h =>
      cases g with
      | zero t => trivial
      | finite t n y h' =>
          have hx : x ≤ a := hf
          have hy : y ≤ b := hg
          have hlog := log2_mul_le (hfm s m x h rfl) (hgm t n y h' rfl)
          exact exponentLe_roundWithAccuracy _ (by omega) (by omega) (by omega)
      | _ => exact hg.elim
  | _ => exact hf.elim

theorem Within.mul {x y : Float} {a b : Int} (hx : Within a x) (hy : Within b y)
    (hlow : -1128 ≤ a + b) (hhigh : a + b ≤ 917) : Within (a + b + 54) (x * y) := by
  refine exponentLe_unpack_pack (ExponentLe.mul hx hy ?_ ?_ hlow) (by omega) (by omega)
  · exact fun _ _ _ _ ↦ mantissa_lt_of_unpack
  · exact fun _ _ _ _ ↦ mantissa_lt_of_unpack

theorem exponentLe_round (s : Sign) {m : Nat} (hm : m < 2 ^ 64) :
    ExponentLe 12 (round .binary64 s m 0) := by
  let k := (0 - Format.binary64.targetExponent (totalExponent m 0)).toNat
  have hbits : (m <<< k).log2 + 1 + (0 - (k : Int)) ≤ 12 + 52 := by
    have hlt : m <<< k < 2 ^ (64 + k) := by
      rw [Nat.shiftLeft_eq, Nat.pow_add]
      exact Nat.mul_lt_mul_of_pos_right hm (Nat.two_pow_pos k)
    by_cases hz : m <<< k = 0
    · rw [hz, Nat.log2_zero]
      omega
    · have := (Nat.log2_lt hz).2 hlt
      omega
  exact exponentLe_roundWithAccuracy s (by omega) hbits (by decide)

/-- An integer of 64 bits and a sign is rounded to a finite value. -/
theorem exponentLe_ofInt {n : Int} (h : n.natAbs < 2 ^ 64) :
    ExponentLe 12 (UnpackedFloat.ofInt .binary64 n) := by
  unfold UnpackedFloat.ofInt UnpackedFloat.normalize
  split
  · exact exponentLe_round .negative (by omega)
  · trivial
  · exact exponentLe_round .positive (by omega)

theorem within_toFloat (n : UInt64) : Within 12 n.toFloat :=
  exponentLe_unpack_pack (exponentLe_ofInt n.toNat_lt) (by decide) (by decide)

theorem exponentLe_ofScientific {k : Nat} (h : k ≤ 288) :
    ExponentLe 905 (UnpackedFloat.ofScientific .binary64 1 k) := by
  have hlow : ¬ (k : Int) < -(2 ^ 11 + (Nat.log2 1 : Nat)) := by omega
  have hhigh : ¬ (k : Int) > 2 ^ 11 := by omega
  have hlog : (1 <<< 53 * 10 ^ k).log2 < 1010 := by
    have hne : 1 <<< 53 * 10 ^ k ≠ 0 :=
      Nat.mul_ne_zero (by decide) (Nat.ne_of_gt (Nat.pow_pos (by decide)))
    have hle := Nat.mul_le_mul_left (1 <<< 53) (Nat.pow_le_pow_right (show 0 < 10 by decide) h)
    exact (Nat.log2_lt hne).2 (Nat.lt_of_le_of_lt hle (by decide +kernel))
  unfold UnpackedFloat.ofScientific
  rw [dif_neg (by decide), if_neg hhigh, if_neg hlow, if_pos (by omega)]
  refine exponentLe_roundWithAccuracy _ (by decide) ?_ (by decide)
  change ((1 <<< 53 * 10 ^ k).log2 : Int) + 1 + (-53 + 0) ≤ 905 + 52
  omega

/-- Powers with exact doubles are those of a table, and the others are rounded. -/
theorem within_powerOfTen {k : Nat} (h : k ≤ 288) : Within 905 (Numeral.powerOfTen k) := by
  unfold Numeral.powerOfTen Float.ofScientific
  split
  · rename_i hk
    have htable : ∀ i : Fin 23, ExponentLe 22
        (Float.exactlyRepresentablePowersOfTen[i]).toModel.unpack := by
      decide +kernel
    have hproduct := (within_toFloat (Nat.toUInt64 1)).mul (htable ⟨k, by omega⟩) (by decide)
      (by decide)
    exact hproduct.mono (by decide)
  · exact exponentLe_unpack_pack (exponentLe_ofScientific h) (by decide) (by decide)

/-! ## Scaling -/

/-- A number of 64 bits times a power of ten up to `10 ^ 288` is finite. -/
theorem exists_scale?_eq_some (n : UInt64) {k : Nat} (h : k ≤ 288) :
    ∃ x, Numeral.scale? n.toFloat k = some x := by
  have hproduct : Within (12 + 905 + 54) (n.toFloat * Numeral.powerOfTen k) :=
    (within_toFloat n).mul (within_powerOfTen h) (by decide) (by decide)
  have hfinite : (n.toFloat * Numeral.powerOfTen k).isInf = false :=
    isInf_eq_false_of_isFinite hproduct.isFinite
  rw [Numeral.scale?, if_pos (by omega), if_pos (by omega)]
  simp only [Int.natAbs_natCast, hfinite, Bool.false_eq_true, if_false]
  exact ⟨_, rfl⟩

end KeywordValues.Decimal
