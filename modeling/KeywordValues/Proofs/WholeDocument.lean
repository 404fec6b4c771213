import KeywordValues.Proofs.Files

/-!
# Documents are read as a whole

One byte more than the limit is taken of a file, and at the top of the range of words the limit
itself, which no file exceeds. So a text that is read is all that the file has, even if the file
reports another size than it has, and what was taken shows whether there was too much.
-/

namespace KeywordValues

variable {f : RegularFile} {max : UInt64} {path text : String}

theorem exists_toUTF8_eq_iff {b : ByteArray} : (∃ s : String, s.toUTF8 = b) ↔ b.IsValidUTF8 := by
  constructor
  · rintro ⟨s, rfl⟩
    exact s.isValidUTF8
  · intro h
    exact ⟨.ofByteArray b h, rfl⟩

theorem readLimit_le (max : UInt64) : readLimit max ≤ max.toNat + 1 := Nat.min_le_left _ _

theorem toNat_le_readLimit (max : UInt64) : max.toNat ≤ readLimit max :=
  Nat.le_min.2 ⟨Nat.le_succ _, Nat.le_sub_one_of_lt max.toNat_lt⟩

namespace RegularFile

theorem holds_iff : f.Holds max text ↔
    f.size ≤ max.toNat ∧ f.content.size ≤ max.toNat ∧ text.toUTF8 = f.content := by
  rw [← fromUTF8?_eq_some_iff]
  exact ⟨fun h ↦ ⟨h.size_le, h.length_le, h.decodes⟩, fun ⟨hs, hl, hd⟩ ↦ ⟨hs, hl, hd⟩⟩

theorem size_taken_le (f : RegularFile) (max : UInt64) : (f.taken max).size ≤ max.toNat + 1 := by
  have hlimit := readLimit_le max
  unfold taken
  split
  · omega
  · rw [ByteArray.size_extract]
    omega

end RegularFile

namespace FileSystem

variable {fs : FileSystem}

/-- A file is read exactly if what it reports and what it has are within the limit and what it has
is UTF-8, and then the text is all of it. No more than one byte over the limit is taken. -/
theorem readDocument_whole (hf : fs.target path = .ok (.regular f))
    (hlen : f.content.size < UInt64.size) :
    (∀ text, fs.readDocument path max = .ok text ↔
      f.size ≤ max.toNat ∧ f.content.size ≤ max.toNat ∧ text.toUTF8 = f.content) ∧
    ((∃ text, fs.readDocument path max = .ok text) ↔
      f.size ≤ max.toNat ∧ f.content.size ≤ max.toNat ∧ f.content.IsValidUTF8) ∧
    (∀ text, fs.readDocument path max = .ok text →
      ∀ n < f.content.size, text.toUTF8 ≠ f.content.extract 0 n) ∧
    (f.taken max).size ≤ max.toNat + 1 := by
  have hread (text : String) : fs.readDocument path max = .ok text ↔
      f.size ≤ max.toNat ∧ f.content.size ≤ max.toNat ∧ text.toUTF8 = f.content :=
    (readDocument_eq_ok_iff (.inl hlen) hf).trans RegularFile.holds_iff
  refine ⟨hread, ?_, fun text ht n hn hcut ↦ ?_, f.size_taken_le max⟩
  · simp only [hread, exists_and_left, exists_toUTF8_eq_iff]
  · have hsize : f.content.size = (f.content.extract 0 n).size := by
      rw [← hcut, ((hread text).1 ht).2.2]
    rw [ByteArray.size_extract] at hsize
    omega

/-- A file reports no size and has one character of two bytes. It is read under the greatest of all
limits, and not under the limit of one byte. -/
theorem readDocument_whole_two_bytes :
    let f : RegularFile := ⟨0, "é".toUTF8⟩
    let fs : FileSystem := ⟨fun _ ↦ .ok false, fun _ ↦ .ok (.regular f)⟩
    fs.target "note" = .ok (.regular f) ∧ f.content.size < UInt64.size ∧
      fs.readDocument "note" 18446744073709551615 = .ok "é" ∧
      ¬ ∃ text, fs.readDocument "note" 1 = .ok text := by
  intro f fs
  have hf : fs.target "note" = .ok (.regular f) := rfl
  have hsize : f.content.size = 2 := by decide
  have hlen : f.content.size < UInt64.size := by rw [hsize]; decide
  refine ⟨hf, hlen, ((readDocument_whole hf hlen).1 "é").2 ⟨Nat.zero_le _, ?_, rfl⟩, fun h ↦ ?_⟩
  · rw [hsize]
    decide
  · have hshort := ((readDocument_whole hf hlen).2.1.1 h).2.1
    rw [hsize] at hshort
    exact absurd hshort (by decide)

end FileSystem

end KeywordValues
