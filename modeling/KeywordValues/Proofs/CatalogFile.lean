import KeywordValues.Proofs.Json.Reader
import KeywordValues.Proofs.WholeDocument
import Mathlib.Data.List.Dedup

/-!
# Catalog files and their texts

A regular file that is as long as it reports gives the catalog of its text, or is refused for the
reason for which its text is, unless it passes one of two limits: that on its length, which is
looked at before anything else, and that on its keywords, which are counted before any of them is
looked at.
-/

namespace KeywordValues

/-! ## Keywords of an object -/

namespace NameMap

universe u

variable {α : Type u}

/-- A map of a list has one entry for each name in the list. -/
theorem size_ofList (es : List (String × α)) : (ofList es).size = (es.map (·.1)).dedup.length := by
  have hperm : (ofList es).names.Perm (es.map (·.1)).dedup :=
    (List.perm_ext_iff_of_nodup (nodup_names _) (List.nodup_dedup _)).2 fun k ↦ by
      rw [mem_names_ofList, List.mem_dedup]
  rw [← hperm.length_eq, names, List.length_map, size]

end NameMap

/-! ## Files that are as long as they report -/

variable {f : RegularFile} {path text : String}

theorem FileSystem.readDocument_of_size_le {fs : FileSystem} {max : UInt64}
    (hf : fs.target path = .ok (.regular f)) (hsize : f.size = f.content.size)
    (hle : f.content.size ≤ max.toNat) : fs.readDocument path max =
      match String.fromUTF8? f.content with
      | some text => .ok text
      | none => .error (.io path .notUtf8) := by
  have htaken : f.taken max = f.content :=
    RegularFile.taken_eq_content (Nat.le_trans hle (toNat_le_readLimit max))
  rw [readDocument, hf]
  simp only [hsize, if_neg (Nat.not_lt_of_le hle), RegularFile.text, htaken]
  cases htext : String.fromUTF8? f.content with
  | none => rfl
  | some text =>
      simp only [utf8ByteSize_of_fromUTF8? htext, if_neg (Nat.not_lt_of_le hle)]

namespace Catalog

variable {fs : FileSystem} {limits : CatalogLimits} {members : List (String × Json)}

/-- The names of the members of an object, each of them once. -/
def memberNames (members : List (String × Json)) : List String := (members.map (·.1)).dedup

theorem ofDocument_of_lt (h : Json.read text = .ok (.object members))
    (hlt : limits.maxKeywords < (memberNames members).length) : ofDocument path text limits =
      .error (.document (.refused path
        (.tooManyKeywords limits.maxKeywords (memberNames members).length))) := by
  rw [memberNames, ← NameMap.size_ofList] at *
  simp only [ofDocument, h, Json.fields?, if_pos hlt]

/-- A document with no more keywords than are allowed gives the catalog of its text. -/
theorem ofDocument_of_le (h : ∀ members, Json.read text = .ok (.object members) →
    (memberNames members).length ≤ limits.maxKeywords) :
    ofDocument path text limits = (ofText text).mapError .catalog := by
  unfold ofDocument ofText extendByText extendByJson
  cases hj : Json.read text with
  | error e => rfl
  | ok j =>
      cases j with
      | object members =>
          have hle := h members hj
          rw [memberNames, ← NameMap.size_ofList] at hle
          simp only [Json.fields?, if_neg (Nat.not_lt_of_le hle)]
      | _ => rfl

theorem ofFile_eq_ofDocument (hlink : fs.isLink path = .ok false)
    (hf : fs.target path = .ok (.regular f)) (hsize : f.size = f.content.size)
    (hle : f.content.size ≤ limits.maxSize.toNat) (htext : text.toUTF8 = f.content) :
    ofFile fs path limits = ofDocument path text limits := by
  simp only [ofFile, hlink, FileSystem.readDocument_of_size_le hf hsize hle,
    fromUTF8?_eq_some_iff.2 htext]

theorem ofFile_of_not_isValidUTF8 (hlink : fs.isLink path = .ok false)
    (hf : fs.target path = .ok (.regular f)) (hsize : f.size = f.content.size)
    (hle : f.content.size ≤ limits.maxSize.toNat) (hinvalid : ¬ f.content.IsValidUTF8) :
    ofFile fs path limits = .error (.document (.io path .notUtf8)) := by
  have hnone : String.fromUTF8? f.content = none := dif_neg hinvalid
  simp only [ofFile, hlink, FileSystem.readDocument_of_size_le hf hsize hle, hnone]

theorem ofFile_of_lt_size (hlink : fs.isLink path = .ok false)
    (hf : fs.target path = .ok (.regular f)) (hlt : limits.maxSize.toNat < f.size) :
    ofFile fs path limits =
      .error (.document (.refused path (.tooLarge f.size limits.maxSize))) := by
  simp only [ofFile, hlink, FileSystem.readDocument, hf, if_pos hlt]

theorem ofFile_of_isLink (h : fs.isLink path = .ok true) :
    ofFile fs path limits = .error (.document (.refused path .link)) := by
  rw [ofFile, h]

/-- A file within both limits is not refused. -/
theorem ofFile_ne_refused (hlink : fs.isLink path = .ok false)
    (hf : fs.target path = .ok (.regular f)) (hsize : f.size = f.content.size)
    (hle : f.content.size ≤ limits.maxSize.toNat) (htext : text.toUTF8 = f.content)
    (hcount : ∀ members, Json.read text = .ok (.object members) →
      (memberNames members).length ≤ limits.maxKeywords) (e : DocumentError) :
    ofFile fs path limits ≠ .error (.document e) := by
  rw [ofFile_eq_ofDocument hlink hf hsize hle htext, ofDocument_of_le hcount, Ne,
    mapError_eq_error_iff]
  rintro ⟨_, -, h⟩
  cases h

/-- A regular file that is as long as it reports is refused if it is longer than the limit, and is
read otherwise. Then it has to be UTF-8. If its text is an object with more names than are allowed
it is refused, whatever they are to be bound to. In all other cases it gives exactly what its text
gives. A file that reaches both limits is not refused, and a symbolic link always is. -/
theorem ofFile_agrees_with_ofText (hlink : fs.isLink path = .ok false)
    (hf : fs.target path = .ok (.regular f)) (hsize : f.size = f.content.size) :
    (limits.maxSize.toNat < f.content.size → ofFile fs path limits =
      .error (.document (.refused path (.tooLarge f.content.size limits.maxSize)))) ∧
    (f.content.size ≤ limits.maxSize.toNat →
      (¬ f.content.IsValidUTF8 → ofFile fs path limits = .error (.document (.io path .notUtf8))) ∧
      ∀ text, text.toUTF8 = f.content →
        (∀ members, Json.read text = .ok (.object members) →
          limits.maxKeywords < (memberNames members).length → ofFile fs path limits =
            .error (.document (.refused path
              (.tooManyKeywords limits.maxKeywords (memberNames members).length)))) ∧
        ((∀ members, Json.read text = .ok (.object members) →
          (memberNames members).length ≤ limits.maxKeywords) →
          ofFile fs path limits = (ofText text).mapError .catalog)) ∧
    (∀ text members, text.toUTF8 = f.content → Json.read text = .ok (.object members) →
      f.content.size = limits.maxSize.toNat → (memberNames members).length = limits.maxKeywords →
      ∀ p reason, ofFile fs path limits ≠ .error (.document (.refused p reason))) ∧
    (∀ (fs' : FileSystem) path', fs'.isLink path' = .ok true →
      ofFile fs' path' limits = .error (.document (.refused path' .link))) := by
  refine ⟨fun hlt ↦ ?_, fun hle ↦ ⟨ofFile_of_not_isValidUTF8 hlink hf hsize hle,
    fun text htext ↦ ⟨fun members hread hlt ↦ ?_, fun hcount ↦ ?_⟩⟩,
    fun text members htext hread hfull hcount p reason ↦ ?_, fun fs' path' ↦ ofFile_of_isLink⟩
  · rw [← hsize] at hlt ⊢
    exact ofFile_of_lt_size hlink hf hlt
  · rw [ofFile_eq_ofDocument hlink hf hsize hle htext, ofDocument_of_lt hread hlt]
  · rw [ofFile_eq_ofDocument hlink hf hsize hle htext, ofDocument_of_le hcount]
  · refine ofFile_ne_refused hlink hf hsize (Nat.le_of_eq hfull) htext (fun members' h ↦ ?_) _
    cases hread.symm.trans h
    exact Nat.le_of_eq hcount

/-- A document of 23 bytes with two names, of which one is bound to nothing. It is refused for its
length or for its names only where one less is allowed. -/
theorem ofFile_agrees_with_ofText_at_limits :
    let members := [("a", Json.string "string"), ("b", .null)]
    let text := (Json.object members).print
    let f : RegularFile := ⟨text.utf8ByteSize, text.toUTF8⟩
    let fs : FileSystem := ⟨fun _ ↦ .ok false, fun _ ↦ .ok (.regular f)⟩
    fs.isLink "own" = .ok false ∧ fs.target "own" = .ok (.regular f) ∧ f.size = f.content.size ∧
      ofFile fs "own" ⟨2, 22⟩ = .error (.document (.refused "own" (.tooLarge 23 22))) ∧
      ofFile fs "own" ⟨1, 23⟩ = .error (.document (.refused "own" (.tooManyKeywords 1 2))) ∧
      ofFile fs "own" ⟨2, 23⟩ = (ofText text).mapError .catalog := by
  intro members text f fs
  have hread : Json.read text = .ok (.object members) :=
    Json.read_print (.object (by decide) (by simp [members, Json.Exact.string, Json.Exact.null]))
  have hlength : f.content.size = 23 := by decide
  have hlink : fs.isLink "own" = .ok false := rfl
  have hf : fs.target "own" = .ok (.regular f) := rfl
  have hagrees (limits : CatalogLimits) := @ofFile_agrees_with_ofText f "own" fs limits hlink hf rfl
  have hle : f.content.size ≤ (23 : UInt64).toNat := by
    rw [hlength]
    decide
  refine ⟨hlink, hf, rfl, ?_, ?_, ?_⟩
  · have hlt : (⟨2, 22⟩ : CatalogLimits).maxSize.toNat < f.content.size := by
      rw [hlength]
      decide
    exact hlength ▸ (hagrees ⟨2, 22⟩).1 hlt
  · exact (((hagrees ⟨1, 23⟩).2.1 hle).2 text rfl).1 members hread (by decide)
  · refine (((hagrees ⟨2, 23⟩).2.1 hle).2 text rfl).2 fun members' h ↦ ?_
    cases hread.symm.trans h
    decide

end Catalog

end KeywordValues
