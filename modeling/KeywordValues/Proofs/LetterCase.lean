import KeywordValues.Proofs.Trim
import Mathlib.Data.List.Forall2

/-!
# The case of ASCII letters

Two characters are the same letter if they are equal, or if one of them is a letter from `A` to `Z`
and the other one the same letter from `a` to `z`. Folding the case makes two texts equal exactly if
they have the same letters in every place. No letter is a blank, so that it makes no difference
whether a text is trimmed before its case is folded or after.
-/

namespace KeywordValues.Text

variable {c d : Char} {s t : String}

/-! ## Characters -/

/-- Characters that are equal up to the case of the letters `A` to `Z`. -/
inductive SameLetter : Char → Char → Prop where
  | same (c : Char) : SameLetter c c
  | lowered {c d : Char} (hc : c.isUpper = true) (hd : d.toNat = c.toNat + 32) : SameLetter c d
  | raised {c d : Char} (hd : d.isUpper = true) (hc : c.toNat = d.toNat + 32) : SameLetter c d

theorem isUpper_iff : c.isUpper = true ↔ 65 ≤ c.toNat ∧ c.toNat ≤ 90 := decide_eq_true_iff

theorem toLower_eq_self (h : c.isUpper = false) : c.toLower = c :=
  dif_neg (of_decide_eq_false h)

theorem toNat_toLower (h : c.isUpper = true) : c.toLower.toNat = c.toNat + 32 := by
  have hval : c.toLower.val = c.val + ('a'.val - 'A'.val) :=
    congrArg Char.val (dif_pos (of_decide_eq_true h))
  have hadd : c.toLower.toNat = (c.toNat + 32) % 2 ^ 32 := by
    rw [← Char.toNat_val, hval, UInt32.toNat_add]
    rfl
  have hle : c.toNat ≤ 90 := (isUpper_iff.1 h).2
  omega

theorem toLower_eq_of_lowered (hc : c.isUpper = true) (hd : d.toNat = c.toNat + 32) :
    c.toLower = d.toLower := by
  have hnot : d.isUpper = false := by
    rw [Bool.eq_false_iff, Ne, isUpper_iff]
    have hge : 65 ≤ c.toNat := (isUpper_iff.1 hc).1
    omega
  rw [toLower_eq_self hnot, ← Char.toNat_inj, toNat_toLower hc, hd]

theorem sameLetter_iff : SameLetter c d ↔ c.toLower = d.toLower := by
  constructor
  · intro h
    cases h with
    | same => rfl
    | lowered hc hd => exact toLower_eq_of_lowered hc hd
    | raised hd hc => exact (toLower_eq_of_lowered hd hc).symm
  · intro h
    have hnat : c.toLower.toNat = d.toLower.toNat := congrArg Char.toNat h
    cases hc : c.isUpper with
    | false =>
        rw [toLower_eq_self hc] at h hnat
        cases hd : d.isUpper with
        | false =>
            rw [toLower_eq_self hd] at h
            exact h ▸ .same c
        | true =>
            rw [toNat_toLower hd] at hnat
            exact .raised hd hnat
    | true =>
        rw [toNat_toLower hc] at hnat
        cases hd : d.isUpper with
        | false =>
            rw [toLower_eq_self hd] at hnat
            exact .lowered hc hnat.symm
        | true =>
            rw [toNat_toLower hd] at hnat
            obtain rfl : c = d := Char.toNat_inj.1 (Nat.add_right_cancel hnat)
            exact .same c

/-- There is no blank from `A` to `z`. -/
theorem isBlank_eq_false_of_le (hlow : 65 ≤ c.toNat) (hhigh : c.toNat ≤ 122) :
    isBlank c = false := by
  simp only [isBlank, Bool.or_eq_false_iff, Bool.and_eq_false_iff, decide_eq_false_iff_not,
    beq_eq_false_iff_ne]
  omega

theorem isBlank_toLower (c : Char) : isBlank c.toLower = isBlank c := by
  cases hc : c.isUpper with
  | false => rw [toLower_eq_self hc]
  | true =>
      have ⟨hlow, hhigh⟩ := isUpper_iff.1 hc
      have hnat : c.toLower.toNat = c.toNat + 32 := toNat_toLower hc
      rw [isBlank_eq_false_of_le hlow (by omega), isBlank_eq_false_of_le (by omega) (by omega)]

/-! ## Texts -/

/-- Texts with the same letters in every place, in whatever case. -/
def CaseVariant (s t : String) : Prop := List.Forall₂ SameLetter s.toList t.toList

theorem caseVariant_iff : CaseVariant s t ↔ foldCase s = foldCase t := by
  have hsame : SameLetter = fun c d ↦ c.toLower = d.toLower := by
    funext c d
    exact propext sameLetter_iff
  rw [← String.toList_inj, toList_foldCase, toList_foldCase, ← List.forall₂_eq_eq_eq,
    List.forall₂_map_left_iff, List.forall₂_map_right_iff, CaseVariant, hsame]

theorem trim_foldCase (s : String) : trim (foldCase s) = foldCase (trim s) := by
  have hblank : isBlank ∘ Char.toLower = isBlank := funext isBlank_toLower
  rw [← String.toList_inj, toList_trim, toList_foldCase, toList_foldCase, toList_trim, trimChars,
    trimChars, List.dropWhile_map, hblank, ← List.map_reverse, List.dropWhile_map, hblank,
    ← List.map_reverse]

/-- Trimming takes as much off a text in every case of its letters. -/
theorem CaseVariant.trim (h : CaseVariant s t) : CaseVariant (trim s) (trim t) := by
  rw [caseVariant_iff] at h ⊢
  rw [← trim_foldCase, h, trim_foldCase]

end KeywordValues.Text
