import KeywordValues.Proofs.WholeDocument

/-!
# Documents that are longer than they report

A file that turns out to be too long while it is read is cut one byte behind the limit, and what is
left of it is decoded before it is measured. So the file is refused for its length if the cut falls
between two of its characters, and is taken for no text if the cut goes through a character.
-/

namespace KeywordValues

/-- A text has a place between two characters, or at its end, behind a number of bytes. -/
def SplitsAt (text : String) (n : Nat) : Prop :=
  ∃ before behind, text = before ++ behind ∧ before.utf8ByteSize = n

variable {f : RegularFile} {max : UInt64} {path text : String}

/-- What is in front of a cut is UTF-8 exactly if the cut goes through no character. -/
theorem splitsAt_iff {n : Nat} :
    SplitsAt text n ↔ n ≤ text.utf8ByteSize ∧ (text.toUTF8.extract 0 n).IsValidUTF8 := by
  have hplace : String.Pos.Raw.IsValid text ⟨n⟩ ↔
      n ≤ text.utf8ByteSize ∧ (text.toUTF8.extract 0 n).IsValidUTF8 :=
    String.Pos.Raw.isValid_iff_isValidUTF8_extract_zero
  rw [← hplace, String.Pos.Raw.isValid_iff_exists_append]
  constructor
  · rintro ⟨before, behind, htext, hsize⟩
    exact ⟨before, behind, htext, String.Pos.Raw.ext hsize.symm⟩
  · rintro ⟨before, behind, htext, hsize⟩
    exact ⟨before, behind, htext, (congrArg String.Pos.Raw.byteIdx hsize).symm⟩

instance (text : String) (n : Nat) : Decidable (SplitsAt text n) :=
  decidable_of_iff _ splitsAt_iff.symm

namespace RegularFile

/-- One byte more than the limit is taken of a file that is too long. -/
theorem taken_of_lt (hlen : f.content.size < UInt64.size) (hlong : max.toNat < f.content.size) :
    f.taken max = f.content.extract 0 (max.toNat + 1) := by
  have hlimit : readLimit max = max.toNat + 1 := Nat.min_eq_left (by omega)
  rw [taken, hlimit]
  split
  · have hsize : f.content.size = max.toNat + 1 := by omega
    rw [← hsize, ByteArray.extract_zero_size]
  · rfl

/-- A text that is too long is refused as such if it is cut between two characters. -/
theorem text_of_splitsAt (hlen : f.content.size < UInt64.size)
    (hlong : max.toNat < f.content.size) (htext : text.toUTF8 = f.content)
    (h : SplitsAt text (max.toNat + 1)) :
    f.text path max = .error (.refused path (.grown max)) := by
  have hvalid : (f.content.extract 0 (max.toNat + 1)).IsValidUTF8 := htext ▸ (splitsAt_iff.1 h).2
  obtain ⟨s, hs⟩ := exists_toUTF8_eq_iff.2 hvalid
  have hdecoded : String.fromUTF8? (f.taken max) = some s := by
    rw [taken_of_lt hlen hlong]
    exact fromUTF8?_eq_some_iff.2 hs
  have hsize : max.toNat < s.utf8ByteSize := by
    rw [utf8ByteSize_of_fromUTF8? hdecoded, taken_of_lt hlen hlong, ByteArray.size_extract]
    omega
  simp only [RegularFile.text, hdecoded, if_pos hsize]

/-- A text that is too long is taken for no text if it is cut in a character. -/
theorem text_of_not_splitsAt (hlen : f.content.size < UInt64.size)
    (hlong : max.toNat < f.content.size) (htext : text.toUTF8 = f.content)
    (h : ¬ SplitsAt text (max.toNat + 1)) : f.text path max = .error (.io path .notUtf8) := by
  have hinvalid : ¬ (f.taken max).IsValidUTF8 := by
    rw [taken_of_lt hlen hlong]
    rw [← htext] at hlong ⊢
    exact fun hvalid ↦ h (splitsAt_iff.2 ⟨hlong, hvalid⟩)
  have hnone : String.fromUTF8? (f.taken max) = none := dif_neg hinvalid
  simp only [RegularFile.text, hnone]

end RegularFile

namespace FileSystem

variable {fs : FileSystem}

theorem readDocument_of_size_le_limit (hf : fs.target path = .ok (.regular f))
    (hsize : f.size ≤ max.toNat) : fs.readDocument path max = f.text path max := by
  simp only [readDocument, hf, if_neg (Nat.not_lt_of_le hsize)]

/-- A text over the limit is never read. It is refused at once if its file reports a size over the
limit. Otherwise it is refused exactly if the cut behind the limit goes through no character, and
is taken for no text exactly if it does. -/
theorem readDocument_of_oversized (hf : fs.target path = .ok (.regular f))
    (hlen : f.content.size < UInt64.size) (hlong : max.toNat < f.content.size)
    (htext : text.toUTF8 = f.content) :
    (max.toNat < f.size →
      fs.readDocument path max = .error (.refused path (.tooLarge f.size max))) ∧
    (f.size ≤ max.toNat →
      (fs.readDocument path max = .error (.refused path (.grown max)) ↔
        SplitsAt text (max.toNat + 1)) ∧
      (fs.readDocument path max = .error (.io path .notUtf8) ↔
        ¬ SplitsAt text (max.toNat + 1))) := by
  refine ⟨fun hsize ↦ ?_, fun hsize ↦ ?_⟩
  · simp only [readDocument, hf, if_pos hsize]
  · rw [readDocument_of_size_le_limit hf hsize]
    by_cases hsplit : SplitsAt text (max.toNat + 1)
    · rw [RegularFile.text_of_splitsAt hlen hlong htext hsplit]
      simp [hsplit]
    · rw [RegularFile.text_of_not_splitsAt hlen hlong htext hsplit]
      simp [hsplit]

/-- A file reports no size and has two characters of two bytes each. One byte over the limit the cut
is in the second character or behind it. -/
theorem readDocument_of_oversized_two_characters :
    let f : RegularFile := ⟨0, "éé".toUTF8⟩
    let fs : FileSystem := ⟨fun _ ↦ .ok false, fun _ ↦ .ok (.regular f)⟩
    fs.target "note" = .ok (.regular f) ∧ f.content.size < UInt64.size ∧ 3 < f.content.size ∧
      fs.readDocument "note" 2 = .error (.io "note" .notUtf8) ∧
      fs.readDocument "note" 3 = .error (.refused "note" (.grown 3)) := by
  intro f fs
  have hf : fs.target "note" = .ok (.regular f) := rfl
  have htext : "éé".toUTF8 = f.content := rfl
  have hsize : f.content.size = 4 := by decide
  have hlen : f.content.size < UInt64.size := by rw [hsize]; decide
  have hlong : (2 : UInt64).toNat < f.content.size := by rw [hsize]; decide
  have hlong' : (3 : UInt64).toNat < f.content.size := by rw [hsize]; decide
  refine ⟨hf, hlen, hlong', ?_, ?_⟩
  · exact ((readDocument_of_oversized hf hlen hlong htext).2 (Nat.zero_le _)).2.2 (by decide)
  · exact ((readDocument_of_oversized hf hlen hlong' htext).2 (Nat.zero_le _)).1.2 (by decide)

/-- A file reports no size and has a line of one letter, which takes two bytes. Under the limit of no
byte it is cut in the letter, so it is not refused for its length: it is taken for no text. -/
theorem readDocument_cut_in_character :
    let f : RegularFile := ⟨0, "é\n".toUTF8⟩
    let fs : FileSystem := ⟨fun _ ↦ .ok false, fun _ ↦ .ok (.regular f)⟩
    f.content.IsValidUTF8 ∧ (0 : UInt64).toNat < f.content.size ∧
      f.content.size < 9223372036854775808 ∧
      fs.readDocument "comm" 0 = .error (.io "comm" .notUtf8) := by
  intro f fs
  have htext : "é\n".toUTF8 = f.content := rfl
  have hsize : f.content.size = 3 := by decide
  have hlen : f.content.size < UInt64.size := by rw [hsize]; decide
  have hlong : (0 : UInt64).toNat < f.content.size := by rw [hsize]; decide
  have hf : fs.target "comm" = .ok (.regular f) := rfl
  refine ⟨String.isValidUTF8 "é\n", hlong, by rw [hsize]; decide, ?_⟩
  rw [readDocument_of_size_le_limit hf (Nat.zero_le _)]
  exact RegularFile.text_of_not_splitsAt hlen hlong htext (by decide)

end FileSystem

end KeywordValues
