import KeywordValues.Files.Document
import KeywordValues.Proofs.DocumentAcceptance

/-!
# Which files are read

A regular file is read exactly if what it has is a text that is not over the limit. What is read
stops short of the end only where this shows, as one byte more than the limit is taken. So the text
of a file is never a part of it, and neither is the catalog that is made of this text.
-/

namespace KeywordValues

/-! ## Texts -/

/-- A file holds a text within a limit, which goes for the size that is reported and for the
content. -/
structure RegularFile.Holds (f : RegularFile) (max : UInt64) (text : String) : Prop where
  size_le : f.size ≤ max.toNat
  length_le : f.content.size ≤ max.toNat
  decodes : String.fromUTF8? f.content = some text

variable {f : RegularFile} {max : UInt64} {path text : String}

/-- Bytes are decoded to the text that they encode. -/
theorem fromUTF8?_eq_some_iff {b : ByteArray} :
    String.fromUTF8? b = some text ↔ text.toUTF8 = b := by
  unfold String.fromUTF8?
  constructor
  · intro h
    split at h
    · cases h
      rfl
    · cases h
  · rintro rfl
    rw [String.toUTF8_eq_toByteArray, dif_pos text.isValidUTF8]
    rfl

theorem utf8ByteSize_of_fromUTF8? {b : ByteArray} (h : String.fromUTF8? b = some text) :
    text.utf8ByteSize = b.size := by
  rw [← fromUTF8?_eq_some_iff.1 h]
  rfl

/-- A file of the bytes of a text holds it. -/
theorem RegularFile.holds_toUTF8 (h : text.utf8ByteSize ≤ max.toNat) :
    RegularFile.Holds ⟨text.utf8ByteSize, text.toUTF8⟩ max text where
  size_le := h
  length_le := h
  decodes := fromUTF8?_eq_some_iff.2 rfl

theorem RegularFile.taken_eq_content (h : f.content.size ≤ readLimit max) :
    f.taken max = f.content :=
  if_pos h

/-- What is taken of a file is all of it, or more than the limit. -/
theorem RegularFile.taken_cases (h : f.content.size < UInt64.size ∨ max.toNat + 1 < UInt64.size) :
    f.taken max = f.content ∨ max.toNat < f.content.size ∧ max.toNat < (f.taken max).size := by
  by_cases hread : f.content.size ≤ readLimit max
  · exact .inl (taken_eq_content hread)
  · have hlimit : max.toNat < readLimit max := by
      have := max.toNat_lt
      unfold readLimit at *
      omega
    refine .inr ⟨by omega, ?_⟩
    rw [taken, if_neg hread, ByteArray.size_extract]
    omega

/-- A file is read exactly if its content is a text within the limit. -/
theorem RegularFile.text_eq_ok_iff
    (h : f.content.size < UInt64.size ∨ max.toNat + 1 < UInt64.size) :
    f.text path max = .ok text ↔
      f.content.size ≤ max.toNat ∧ String.fromUTF8? f.content = some text := by
  unfold RegularFile.text
  rcases taken_cases h with htaken | ⟨hlong, htaken⟩
  · rw [htaken]
    cases hs : String.fromUTF8? f.content with
    | none => simp
    | some s =>
        have hsize := utf8ByteSize_of_fromUTF8? hs
        simp only [hsize]
        by_cases hmax : max.toNat < f.content.size
        · simp [hmax, Nat.not_le_of_lt hmax]
        · simp [hmax, Nat.le_of_not_lt hmax]
  · refine iff_of_false (fun hok ↦ ?_) fun hok ↦ absurd hok.1 (Nat.not_le_of_lt hlong)
    -- what was taken shows that the file is too long
    split at hok
    · cases hok
    · rename_i s hs
      rw [utf8ByteSize_of_fromUTF8? hs, if_pos htaken] at hok
      cases hok

theorem FileSystem.readDocument_eq_ok_iff {fs : FileSystem}
    (h : f.content.size < UInt64.size ∨ max.toNat + 1 < UInt64.size)
    (hf : fs.target path = .ok (.regular f)) :
    fs.readDocument path max = .ok text ↔ f.Holds max text := by
  rw [readDocument, hf]
  simp only
  split
  · rename_i hsize
    exact iff_of_false nofun fun ht ↦ absurd ht.size_le (Nat.not_le_of_lt hsize)
  · rename_i hsize
    rw [RegularFile.text_eq_ok_iff h]
    exact ⟨fun ⟨hl, ht⟩ ↦ ⟨Nat.le_of_not_lt hsize, hl, ht⟩, fun ht ↦ ⟨ht.length_le, ht.decodes⟩⟩

/-- A regular file that is not read is no text, or is refused. -/
theorem FileSystem.eq_of_readDocument_eq_error {fs : FileSystem} {e : DocumentError}
    (hf : fs.target path = .ok (.regular f)) (h : fs.readDocument path max = .error e) :
    e = .io path .notUtf8 ∨ ∃ reason, e = .refused path reason := by
  rw [readDocument, hf] at h
  simp only [RegularFile.text] at h
  split at h
  · cases h
    exact .inr ⟨_, rfl⟩
  · split at h
    · cases h
      exact .inl rfl
    · split at h <;> cases h
      exact .inr ⟨_, rfl⟩

/-! ## Catalogs -/

namespace Catalog

variable {c : Catalog} {fields : NameMap Json} {limits : CatalogLimits}

/-- The catalog that an object defines: all members define keywords, and there are no others. -/
structure OfFields (c : Catalog) (fields : NameMap Json) : Prop where
  defines : ∀ m ∈ fields.entries, ∃ type, empty.Defines m type
  typeOf_iff : ∀ name type, c.typeOf name = .ok type ↔
    ∃ j, (name, j) ∈ fields.entries ∧ Names j type

theorem extendByFields_empty_eq_ok_iff :
    empty.extendByFields fields = .ok c ↔ c.OfFields fields := by
  have hempty (name : String) (type : DataType) : ¬ empty.typeOf name = .ok type :=
    not_typeOf_eq_ok rfl
  simp only [extendByFields_eq_ok_iff, hempty, false_or]
  exact ⟨fun ⟨hd, ht⟩ ↦ ⟨hd, ht⟩, fun h ↦ ⟨h.defines, h.typeOf_iff⟩⟩

/-- A document gives a catalog if it is an object which defines it and has not too many members. -/
theorem ofDocument_eq_ok_iff : ofDocument path text limits = .ok c ↔
    ∃ fields, IsDocument text fields ∧ fields.size ≤ limits.maxKeywords ∧ c.OfFields fields := by
  simp only [← extendByFields_empty_eq_ok_iff]
  unfold ofDocument IsDocument
  constructor
  · intro h
    split at h
    · cases h
    · rename_i j hj
      split at h
      · cases h
      · rename_i fields hf
        split at h
        · cases h
        · rename_i hsize
          cases hd : empty.extendByFields fields with
          | error e =>
              rw [hd] at h
              cases h
          | ok d =>
              rw [hd] at h
              cases h
              exact ⟨fields, ⟨j, hj, hf⟩, Nat.le_of_not_lt hsize, hd⟩
  · rintro ⟨fields, ⟨j, hj, hf⟩, hsize, hd⟩
    simp only [hj, hf, if_neg (Nat.not_lt_of_le hsize), hd]
    rfl

theorem ofFile_eq_ok_iff {fs : FileSystem} (hlink : fs.isLink path = .ok false)
    (hf : fs.target path = .ok (.regular f))
    (h : f.content.size < UInt64.size ∨ limits.maxSize.toNat + 1 < UInt64.size) :
    ofFile fs path limits = .ok c ↔ ∃ text fields, f.Holds limits.maxSize text ∧
      IsDocument text fields ∧ fields.size ≤ limits.maxKeywords ∧ c.OfFields fields := by
  rw [ofFile, hlink]
  simp only [← FileSystem.readDocument_eq_ok_iff h hf]
  cases hd : fs.readDocument path limits.maxSize with
  | error e => simp
  | ok text => simp [ofDocument_eq_ok_iff]

/-- A file that gives no catalog is not read, is refused, or has a document that is at fault. -/
theorem eq_of_ofFile_eq_error {fs : FileSystem} {e : CatalogFileError}
    (hlink : fs.isLink path = .ok false) (hf : fs.target path = .ok (.regular f))
    (h : ofFile fs path limits = .error e) :
    e = .document (.io path .notUtf8) ∨ (∃ reason, e = .document (.refused path reason)) ∨
      ∃ cause, e = .catalog cause := by
  rw [ofFile, hlink] at h
  simp only at h
  split at h
  · rename_i d hd
    cases h
    rcases FileSystem.eq_of_readDocument_eq_error hf hd with rfl | ⟨reason, rfl⟩
    · exact .inl rfl
    · exact .inr (.inl ⟨reason, rfl⟩)
  · rename_i text hd
    unfold ofDocument at h
    split at h
    · cases h
      exact .inr (.inr ⟨_, rfl⟩)
    · split at h
      · cases h
        exact .inr (.inr ⟨_, rfl⟩)
      · rename_i fields hfields
        split at h
        · cases h
          exact .inr (.inl ⟨_, rfl⟩)
        · cases hx : empty.extendByFields fields with
          | error cause =>
              rw [hx] at h
              cases h
              exact .inr (.inr ⟨_, rfl⟩)
          | ok d =>
              rw [hx] at h
              cases h

end Catalog

end KeywordValues
