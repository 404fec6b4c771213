import KeywordValues.Json.Printer
import KeywordValues.Proofs.Decimal
import KeywordValues.Proofs.TypeName

/-!
# Printed values as names of data types

The compact text of a value that is not a text has nothing that could be trimmed off, and it is the
name of no data type: it is one of three words, or it starts with a character that is no letter.
-/

namespace KeywordValues

/-- Nothing can be trimmed off a text, and it is the name of no data type in any case of letters. -/
structure NoTypeName (cs : List Char) : Prop where
  trimmed : Text.trimChars cs = cs
  ne_name : ∀ t : DataType, cs.map Char.toLower ≠ t.name.toList

/-- The names of data types start with letters. -/
theorem DataType.isAlpha_head_name (t : DataType) :
    ∃ c ∈ t.name.toList.head?, c.isAlpha = true := by
  rcases t with k | k <;> cases k <;> exact ⟨_, rfl, by decide⟩

namespace NoTypeName

variable {cs : List Char}

theorem of_head (htrim : Text.trimChars cs = cs) (h : ∃ c ∈ cs.head?, c.isAlpha = false) :
    NoTypeName cs where
  trimmed := htrim
  ne_name t ht := by
    obtain ⟨c, hc, hfalse⟩ := h
    obtain ⟨d, hd, htrue⟩ := t.isAlpha_head_name
    rw [← ht, List.head?_map, hc] at hd
    cases hd
    have hupper : c.isUpper = false := (Bool.or_eq_false_iff.1 hfalse).1
    rw [Text.toLower_eq_self hupper, hfalse] at htrue
    cases htrue

theorem of_signed (h : Decimal.Signed cs) : NoTypeName cs := by
  have hblank : ∀ c ∈ cs, Text.isBlank c = false := fun c hc ↦
    Decimal.isBlank_eq_false_of_isNumeralChar (h.chars c hc)
  refine of_head (Text.trimChars_eq_self ?_ ?_) h.head
  · exact fun c hc ↦ hblank c (List.mem_of_mem_head? hc)
  · exact fun c hc ↦ hblank c (List.mem_of_mem_getLast? hc)

/-- A text between brackets. -/
theorem enclosed {a b : Char} (ha : Text.isBlank a = false) (hb : Text.isBlank b = false)
    (halpha : a.isAlpha = false) : NoTypeName (a :: (cs ++ [b])) := by
  refine of_head (Text.trimChars_eq_self ?_ ?_) ⟨a, rfl, halpha⟩
  · rintro c ⟨⟩
    exact ha
  · intro c hc
    rw [← List.cons_append, List.getLast?_append, List.getLast?_singleton] at hc
    cases hc
    exact hb

theorem word_null : NoTypeName "null".toList where
  trimmed := by decide
  ne_name t := by rcases t with k | k <;> cases k <;> decide

theorem word_true : NoTypeName "true".toList where
  trimmed := by decide
  ne_name t := by rcases t with k | k <;> cases k <;> decide

theorem word_false : NoTypeName "false".toList where
  trimmed := by decide
  ne_name t := by rcases t with k | k <;> cases k <;> decide

end NoTypeName

/-- The compact text of a value that is not a text is the name of no data type. -/
theorem noTypeName_chars {j : Json} (h : ∀ s, j ≠ .string s) : NoTypeName j.chars := by
  cases j with
  | null => exact .word_null
  | bool b =>
      cases b with
      | true => exact .word_true
      | false => exact .word_false
  | whole n => exact .of_signed (.integer n.val)
  | double x =>
      rcases Decimal.Layout.render_json_cases x with hx | hx
      · exact .of_signed hx
      · exact (show NoTypeName (Decimal.Layout.json.render x) from hx ▸ .word_null)
  | string s => exact absurd rfl (h s)
  | array items => exact .enclosed (by decide) (by decide) (by decide)
  | object members => exact .enclosed (by decide) (by decide) (by decide)

theorem DataType.ofName_print {j : Json} (h : ∀ s, j ≠ .string s) :
    ofName j.print = .error ⟨j.print⟩ := by
  have hj := noTypeName_chars h
  have htrim : Text.trim j.print = j.print := by
    rw [← String.toList_inj, Text.toList_trim, Json.toList_print, hj.trimmed]
  rw [ofName_eq_error_iff, htrim]
  refine ⟨fun t ht ↦ hj.ne_name t ?_, rfl⟩
  rw [← ht, Text.toList_foldCase, Json.toList_print]

end KeywordValues
