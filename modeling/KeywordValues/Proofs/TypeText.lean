import KeywordValues.TypeText
import KeywordValues.Proofs.Json.Reader
import KeywordValues.Proofs.TypeName

/-!
# Names of data types in texts and in JSON

A text names a data type exactly if, without the blanks at its ends and with its ASCII letters folded
to lower case, it is the name of the type. So neither padding nor the case of letters decides what a
text names. A JSON text holds a data type exactly if its value is a string that names it, and the
text that is written for a type holds this type.
-/

namespace KeywordValues

/-! ## JSON texts of strings -/

namespace Json.Reader

variable {level : Option (Scanner Json)} {s rest : List Char} {k : String}

/-- A string is read exactly if a quote comes next and the text behind it is a quoted one. -/
theorem reads_bare_string_iff : Reads (bare level s) (.string k) rest ↔
    ∃ u, s = '"' :: u ∧ Reads (Quoted.decode u) k rest := by
  constructor
  · intro hread
    cases s with
    | nil =>
        obtain ⟨_, hread⟩ := hread
        cases hread
    | cons c u =>
        obtain rfl : c = '"' := by
          cases opens_of_bare hread
          rfl
        obtain ⟨_, hread⟩ := hread
        cases hk : Quoted.decode u with
        | error f =>
            simp only [bare, if_true, hk] at hread
            cases hread
        | ok k =>
            simp only [bare, if_true, hk] at hread
            cases hread
            exact ⟨u, rfl, k.shorter, hk⟩
  · rintro ⟨u, rfl, _, hk⟩
    simp only [bare, if_true, hk]
    exact ⟨_, rfl⟩

/-- How deep arrays and objects may go makes no difference to a string. -/
theorem text_eq_string_iff (level : Option (Scanner Json)) : text s = .ok (.string k) ↔
    ∃ rest, Reads (bare level (skip s)) (.string k) rest ∧ skip rest = [] := by
  have hvalue : value maxLevels s = value.spaced (some (value (maxLevels - 1))) s := rfl
  simp only [text_eq_ok_iff, hvalue, reads_spaced_iff, reads_bare_string_iff]

end Json.Reader

namespace DataType

open Json (Reads)
open Json.Reader (skip bare reads_bare_string_iff text_eq_string_iff)

variable {s rest : List Char} {k text : String} {t : DataType}

/-- A string in front of a text is read as it is wherever a value is read. -/
theorem readString_eq_ok_iff :
    readString s = .ok (.string k, rest) ↔ Reads (bare none (skip s)) (.string k) rest := by
  unfold readString
  constructor
  · intro h
    split at h
    · cases h
    -- where an array or an object begins, what is found is no string
    split at h
    · cases h
    split at h
    · cases h
    rename_i hs _ _
    rw [hs]
    split at h
    · cases h
    · rename_i j hj
      obtain ⟨v, r, hlt⟩ := j
      cases h
      exact ⟨hlt, hj⟩
  · intro h
    obtain ⟨u, hs, -⟩ := reads_bare_string_iff.1 h
    rw [hs] at h ⊢
    obtain ⟨_, h⟩ := h
    simp only [if_neg (show ¬ '"' = '[' by decide), if_neg (show ¬ '"' = '{' by decide), h]

/-- A JSON text holds a data type exactly if its value is a string that names the type. -/
theorem ofJsonText_eq_ok_iff :
    ofJsonText text = .ok t ↔ ∃ k, Json.read text = .ok (.string k) ∧ ofName k = .ok t := by
  simp only [Json.read_eq_ok_iff, text_eq_string_iff none, ← readString_eq_ok_iff]
  unfold ofJsonText
  constructor
  · intro h
    dsimp only at h
    split at h
    · cases h
    · rename_i k rest hread
      split at h
      · cases h
      · rename_i hname
        split at h <;> cases h
        rename_i hrest
        exact ⟨k, ⟨rest, hread, hrest⟩, hname⟩
    · cases h
  · rintro ⟨k, ⟨rest, hread, hrest⟩, hname⟩
    simp only [hread, hname, hrest]

/-- A string that names no data type is refused as an unknown name. -/
theorem ofJsonText_of_read_string (hread : Json.read text = .ok (.string k)) :
    ofJsonText text = (ofName k).mapError .unknown := by
  cases hname : ofName k with
  | ok t => exact ofJsonText_eq_ok_iff.2 ⟨k, hread, hname⟩
  | error e =>
      rw [Json.read_eq_ok_iff, text_eq_string_iff none] at hread
      obtain ⟨rest, hread, -⟩ := hread
      unfold ofJsonText
      simp only [readString_eq_ok_iff.2 hread, hname]
      rfl

/-- The text that is written for a data type holds it. -/
theorem ofJsonText_print (t : DataType) : ofJsonText t.toJson.print = .ok t := by
  have hread : Json.read t.toJson.print = .ok t.toJson := Json.read_print (.string t.name)
  exact ofJsonText_eq_ok_iff.2 ⟨t.name, hread, ofName_name t⟩

/-! ## Padded names in any case -/

/-- A text names a data type exactly if the part between its blanks is the name of this type once `A`
to `Z` are folded to `a` to `z`, that is, if it is this name with the case of some letters changed,
between blanks. Then there is no other such type, and nothing but ASCII letters and underscores is in
that part. Otherwise the error carries that part. So more padding changes nothing, and no change of
the case of letters changes the type. A JSON string is read as the text it holds, a JSON text holds
a type only if it is that of a string, and the text written for a type holds this type. -/
theorem ofName_up_to_padding_and_case (s : String) :
    (∀ u, Text.Trims s u ↔ u = Text.trim s) ∧
    (∀ t, ofName s = .ok t ↔ Text.foldCase (Text.trim s) = t.name) ∧
    (∀ t, ofName s = .ok t ↔ ∃ p u q, Text.isBlankText p = true ∧ Text.isBlankText q = true ∧
      s = p ++ u ++ q ∧ Text.CaseVariant t.name u) ∧
    (∀ t t' : DataType, Text.foldCase (Text.trim s) = t.name →
      Text.foldCase (Text.trim s) = t'.name → t = t') ∧
    (∀ t, ofName s = .ok t → ∀ c ∈ (Text.trim s).toList, c.isAlpha = true ∨ c = '_') ∧
    (∀ e, ofName s = .error e ↔
      (∀ t : DataType, Text.foldCase (Text.trim s) ≠ t.name) ∧ e = ⟨Text.trim s⟩) ∧
    (∀ p q, Text.isBlankText p = true → Text.isBlankText q = true →
      ofName (p ++ s ++ q) = ofName s) ∧
    (∀ s', Text.CaseVariant s s' → ∀ t, ofName s' = .ok t ↔ ofName s = .ok t) ∧
    (∀ text, Json.read text = .ok (.string s) →
      ofJsonText text = (ofName s).mapError .unknown) ∧
    (∀ text t, ofJsonText text = .ok t ↔
      ∃ k, Json.read text = .ok (.string k) ∧ ofName k = .ok t) ∧
    ∀ t, ofJsonText t.toJson.print = .ok t := by
  refine ⟨fun u ↦ Text.trims_iff, fun t ↦ ofName_eq_ok_iff, fun t ↦ ofName_eq_ok_iff_padded, ?_,
    fun t ↦ isAlpha_or_eq_of_mem_trim, fun e ↦ ofName_eq_error_iff, ?_, ?_, ?_, ?_,
    ofJsonText_print⟩
  · intro t t' ht ht'
    exact name_injective (ht.symm.trans ht')
  · intro p q hp hq
    exact ofName_congr (Text.trim_append hp hq s)
  · intro s' h t
    exact ofName_eq_ok_iff_of_caseVariant h
  · intro text
    exact ofJsonText_of_read_string
  · intro text t
    exact ofJsonText_eq_ok_iff

/-- A name between a wide space and a tab names its type, also between more blanks, in the other case
of its letters, and as a JSON string in which the tab is escaped. -/
theorem ofName_up_to_padding_and_case_integer_array :
    let s := "\u3000Integer_ARRAY\t"
    ofName s = .ok (.array .integer) ∧
      ofName ("\n" ++ s ++ " ") = .ok (.array .integer) ∧
      ofName "\u3000iNTEGER_array\t" = .ok (.array .integer) ∧
      ofJsonText (Json.string s).print = .ok (.array .integer) := by
  intro s
  obtain ⟨-, hname, -, -, -, -, hpadded, hcase, hjson, -, -⟩ := ofName_up_to_padding_and_case s
  have hs : ofName s = .ok (.array .integer) := (hname _).2 (by decide)
  have hblank : ofName ("\n" ++ s ++ " ") = ofName s := hpadded "\n" " " (by decide) (by decide)
  have hread : Json.read (Json.string s).print = .ok (.string s) := Json.read_print (.string s)
  refine ⟨hs, hblank.trans hs, (hcase _ (Text.caseVariant_iff.2 (by decide)) _).2 hs, ?_⟩
  rw [hjson _ hread, hs]
  rfl

end DataType

end KeywordValues
