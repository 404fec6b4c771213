import KeywordValues.Json.Quoted

/-!
# Quoted texts are read back

What is written for a character inside quotes is read as that character, whatever follows, so that a
quoted text is read up to its closing quote and gives the text that was quoted.
-/

namespace KeywordValues.Json

universe u

/-- A reader takes a value off the front of a text and leaves a rest. -/
def Reads {s : List Char} {α : Type u} (r : Except Fault (Scanned s α)) (v : α)
    (rest : List Char) : Prop :=
  ∃ h, r = .ok ⟨v, rest, h⟩

theorem Reads.unique {s : List Char} {α : Type u} {r : Except Fault (Scanned s α)} {v v' : α}
    {rest rest' : List Char} (h : Reads r v rest) (h' : Reads r v' rest') :
    v = v' ∧ rest = rest' := by
  obtain ⟨_, h⟩ := h
  obtain ⟨_, h'⟩ := h'
  cases h.symm.trans h'
  exact ⟨rfl, rfl⟩

namespace Quoted

variable {t read s rest : List Char} {c : Char}

/-! ## Hexadecimal digits -/

theorem hexValue?_hexDigit {n : Nat} (h : n < 16) : hexValue? (hexDigit n) = some n := by
  revert n
  decide

/-- The four digits that are written for a character below sixteen times sixteen. -/
theorem unit_hexDigits {n : Nat} (h : n < 256) (s : List Char) :
    Reads (unit ('0' :: '0' :: hexDigit (n / 16) :: hexDigit (n % 16) :: s)) n s := by
  have hzero : hexValue? '0' = some 0 := rfl
  have hhigh : hexValue? (hexDigit (n / 16)) = some (n / 16) := hexValue?_hexDigit (by omega)
  have hlow : hexValue? (hexDigit (n % 16)) = some (n % 16) := hexValue?_hexDigit (by omega)
  have hn : ((0 * 16 + 0) * 16 + n / 16) * 16 + n % 16 = n := by omega
  simp only [unit, hzero, hhigh, hlow, hn]
  exact ⟨_, rfl⟩

theorem escaped_hexDigits (h : c.toNat < 0x20) (s : List Char) :
    Reads (escaped ('u' :: '0' :: '0' :: hexDigit (c.toNat / 16) :: hexDigit (c.toNat % 16) :: s))
      c s := by
  obtain ⟨hs, hunit⟩ := unit_hexDigits (show c.toNat < 256 by omega) s
  have htrailing : isTrailing c.toNat = false := by
    simp only [isTrailing, Bool.and_eq_false_iff, decide_eq_false_iff_not]
    omega
  have hleading : isLeading c.toNat = false := by
    simp only [isLeading, Bool.and_eq_false_iff, decide_eq_false_iff_not]
    omega
  simp only [escaped, hexChar, hunit, htrailing, hleading, Bool.false_eq_true, if_false, if_true,
    Scanned.map, Char.ofNat_toNat]
  exact ⟨_, rfl⟩

theorem escaped_letter {l : Char} (hl : shortEscape? l = some c) (hu : l ≠ 'u') (s : List Char) :
    Reads (escaped (l :: s)) c s := by
  simp only [escaped, if_neg hu, hl]
  exact ⟨_, rfl⟩

/-! ## Characters and texts -/

/-- A character is written as a letter or a number behind a backslash, or as it is. -/
theorem encodeChar_cases (c : Char) :
    (∃ l, l ≠ 'u' ∧ shortEscape? l = some c ∧ encodeChar c = ['\\', l]) ∨
    (c.toNat < 0x20 ∧ encodeChar c =
      ['\\', 'u', '0', '0', hexDigit (c.toNat / 16), hexDigit (c.toNat % 16)]) ∨
    (c ≠ '"' ∧ c ≠ '\\' ∧ ¬ c.toNat < 0x20 ∧ encodeChar c = [c]) := by
  by_cases h : c ∈ ['"', '\\', '\x08', '\x0c', '\n', '\r', '\t']
  · refine .inl ?_
    simp only [List.mem_cons, List.not_mem_nil, or_false] at h
    rcases h with rfl | rfl | rfl | rfl | rfl | rfl | rfl
    · exact ⟨'"', by decide, rfl, rfl⟩
    · exact ⟨'\\', by decide, rfl, rfl⟩
    · exact ⟨'b', by decide, rfl, rfl⟩
    · exact ⟨'f', by decide, rfl, rfl⟩
    · exact ⟨'n', by decide, rfl, rfl⟩
    · exact ⟨'r', by decide, rfl, rfl⟩
    · exact ⟨'t', by decide, rfl, rfl⟩
  · simp only [List.mem_cons, List.not_mem_nil, or_false, not_or] at h
    obtain ⟨hquote, hbackslash, h₁, h₂, h₃, h₄, h₅⟩ := h
    refine .inr ?_
    simp only [encodeChar, hquote, hbackslash, h₁, h₂, h₃, h₄, h₅, if_false]
    by_cases hc : c.toNat < 0x20
    · exact .inl ⟨hc, if_pos hc⟩
    · exact .inr ⟨hquote, hbackslash, hc, if_neg hc⟩

theorem decodeFrom_escaped {r : List Char} (hr : Reads (escaped r) c s)
    (h : ('\\' :: r).length ≤ t.length) (h' : s.length ≤ t.length) :
    decodeFrom t read ('\\' :: r) h = decodeFrom t (c :: read) s h' := by
  obtain ⟨hs, hr⟩ := hr
  rw [decodeFrom]
  simp only [hr]
  rfl

/-- What is written for a character is read as that character. -/
theorem decodeFrom_encodeChar (h : (encodeChar c ++ s).length ≤ t.length)
    (h' : s.length ≤ t.length) :
    decodeFrom t read (encodeChar c ++ s) h = decodeFrom t (c :: read) s h' := by
  revert h
  rcases encodeChar_cases c with ⟨l, hu, hl, hc⟩ | ⟨hlt, hc⟩ | ⟨hquote, hbackslash, hlt, hc⟩
  · rw [hc]
    intro h
    exact decodeFrom_escaped (escaped_letter hl hu s) h h'
  · rw [hc]
    intro h
    exact decodeFrom_escaped (escaped_hexDigits hlt s) h h'
  · rw [hc]
    intro h
    simp only [List.singleton_append]
    rw [decodeFrom]
    simp only [hquote, hbackslash, hlt, if_false]

theorem decodeFrom_encode (cs : List Char) (h : (encode cs ++ '"' :: rest).length ≤ t.length) :
    Reads (decodeFrom t read (encode cs ++ '"' :: rest) h) (read.reverse ++ cs) rest := by
  induction cs generalizing read with
  | nil =>
      simp only [encode, List.flatMap_nil, List.nil_append, List.append_nil]
      rw [decodeFrom]
      exact ⟨h, rfl⟩
  | cons c cs ih =>
      have happend : encode (c :: cs) ++ '"' :: rest =
          encodeChar c ++ (encode cs ++ '"' :: rest) := by
        rw [encode, List.flatMap_cons, List.append_assoc]
        rfl
      have h' : (encode cs ++ '"' :: rest).length ≤ t.length := by
        rw [happend, List.length_append] at h
        omega
      have hread : read.reverse ++ c :: cs = (c :: read).reverse ++ cs := by simp
      revert h
      rw [happend, hread]
      intro h
      rw [decodeFrom_encodeChar h h']
      exact ih h'

/-- A quoted text is read as the text that was quoted. -/
theorem decode_encode (text : String) (rest : List Char) :
    Reads (decode (encode text.toList ++ '"' :: rest)) text rest := by
  obtain ⟨hs, h⟩ : Reads (decodeFrom _ [] _ (length_le_self _)) text.toList rest :=
    decodeFrom_encode text.toList _
  refine ⟨hs, ?_⟩
  simp only [decode, h, Scanned.map, String.ofList_toList]

end Quoted

end KeywordValues.Json
