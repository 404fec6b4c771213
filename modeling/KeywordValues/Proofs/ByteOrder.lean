import KeywordValues.NameMap
import Mathlib.Tactic.SplitIfs

/-!
# The order of texts and the order of their bytes

Names are compared character by character, and documents promise the order of UTF-8 bytes. UTF-8 is
made so that both agree: the encodings of two characters differ at a byte that both have, and there
the smaller character has the smaller byte, so that whatever follows does not matter.
-/

namespace KeywordValues.Text

/-- The UTF-8 bytes of a text. -/
def bytes (s : String) : List UInt8 := s.toUTF8.data.toList

theorem bytes_ofList (cs : List Char) : bytes (.ofList cs) = cs.flatMap String.utf8EncodeChar := by
  simp [bytes, List.utf8Encode]

/-! ## Characters -/

theorem toNat_byte {n : Nat} (h : n < 256) : (UInt8.ofNat n).toNat = n := by
  rw [UInt8.toNat_ofNat', Nat.mod_eq_of_lt h]

theorem codePoint_lt (c : Char) : c.val.toNat < 0x110000 := by
  have h := c.valid
  simp only [UInt32.isValidChar, Nat.isValidChar] at h
  omega

/-- Numbers are compared by their higher digits first. -/
theorem lt_iff_div_mod (b m n : Nat) : m < n ↔ m / b < n / b ∨ m / b = n / b ∧ m % b < n % b := by
  have hm := Nat.div_add_mod m b
  have hn := Nat.div_add_mod n b
  constructor
  · intro h
    rcases Nat.lt_or_eq_of_le (Nat.div_le_div_right (c := b) (Nat.le_of_lt h)) with hd | hd
    · exact .inl hd
    · rw [hd] at hm
      exact .inr ⟨hd, by omega⟩
  · rintro (hd | ⟨hd, hr⟩)
    · exact Nat.lt_of_div_lt_div hd
    · rw [hd] at hm
      omega

/-- Two code points are compared by their groups of six bits, the higher ones first. -/
theorem sextets_lt {m n : Nat} (hn : n < 0x110000) (h : m < n) :
    m / 262144 % 8 < n / 262144 % 8 ∨ m / 262144 % 8 = n / 262144 % 8 ∧
      (m / 4096 % 64 < n / 4096 % 64 ∨ m / 4096 % 64 = n / 4096 % 64 ∧
        (m / 64 % 64 < n / 64 % 64 ∨ m / 64 % 64 = n / 64 % 64 ∧ m % 64 < n % 64)) := by
  have h₁ (x : Nat) : x % 262144 / 4096 = x / 4096 % 64 := Nat.mod_mul_right_div_self x 4096 64
  have h₂ (x : Nat) : x % 4096 / 64 = x / 64 % 64 := Nat.mod_mul_right_div_self x 64 64
  rw [Nat.mod_eq_of_lt (show m / 262144 < 8 by omega),
    Nat.mod_eq_of_lt (show n / 262144 < 8 by omega)]
  rw [lt_iff_div_mod 262144, lt_iff_div_mod 4096 (m % _), lt_iff_div_mod 64 (m % _ % _)] at h
  simpa only [h₁, h₂, Nat.mod_mod_of_dvd _ (show 4096 ∣ 262144 by decide),
    Nat.mod_mod_of_dvd _ (show 64 ∣ 4096 by decide)] using h

/-- Of two characters the smaller has the smaller encoding, whatever follows. -/
theorem encode_append_lt {c d : Char} (h : c < d) (u v : List UInt8) :
    String.utf8EncodeChar c ++ u < String.utf8EncodeChar d ++ v := by
  have hcd : c.val.toNat < d.val.toNat := h
  have hd := codePoint_lt d
  unfold String.utf8EncodeChar
  generalize c.val.toNat = m, d.val.toNat = n at *
  simp only []
  -- One case for each pair of lengths; the shorter encoding has the smaller first byte.
  split_ifs <;>
    simp (disch := omega) only [List.cons_append, List.nil_append, List.cons_lt_cons_iff,
      UInt8.lt_iff_toNat_lt, ← UInt8.toNat_inj, toNat_byte]
  any_goals omega
  rcases sextets_lt hd hcd with h₀ | ⟨h₀, h₁ | ⟨h₁, h₂ | ⟨h₂, h₃⟩⟩⟩
  · simp [h₀]
  · simp [h₀, h₁]
  · simp [h₀, h₁, h₂]
  · simp [h₀, h₁, h₂, h₃]

/-! ## Texts -/

theorem flatMap_encode_lt {cs ds : List Char} (h : cs < ds) :
    cs.flatMap String.utf8EncodeChar < ds.flatMap String.utf8EncodeChar := by
  induction h with
  | @nil c cs =>
      obtain ⟨b, bs, hb⟩ := List.exists_cons_of_ne_nil (String.utf8EncodeChar_ne_nil (c := c))
      simp [hb]
  | cons _ ih => exact List.append_left_lt ih
  | rel h => exact encode_append_lt h _ _

theorem bytes_lt_of_lt {s t : String} (h : s < t) : bytes s < bytes t := by
  rw [← String.ofList_toList (s := s), ← String.ofList_toList (s := t), bytes_ofList, bytes_ofList]
  exact flatMap_encode_lt h

/-- One text stands before another in the order of UTF-8 bytes. -/
def Precedes (s t : String) : Prop := bytes s < bytes t

/-- The order of texts is that of their UTF-8 bytes. -/
theorem precedes_iff {s t : String} : Precedes s t ↔ s < t := by
  refine ⟨fun h ↦ ?_, bytes_lt_of_lt⟩
  rcases Decidable.em (s < t) with hst | hst
  · exact hst
  · rcases Decidable.em (t < s) with hts | hts
    · exact absurd h (List.lt_asymm (bytes_lt_of_lt hts))
    · rw [NameMap.eq_of_not_lt hst hts] at h
      exact absurd h (List.lt_irrefl _)

end KeywordValues.Text
