import KeywordValues.Text.Blank
import Mathlib.Data.List.DropRight

/-!
# Trimming

A text that trimming leaves nothing of is one that has blanks only, and a text without a blank at
either end is left as it is. Blanks put in front of a text or behind it change nothing about what
trimming leaves, which is the one part without a blank at either end that has only blanks around it.
-/

namespace KeywordValues.Text

variable {cs ps qs : List Char} {s t p q : String}

theorem dropWhile_isBlank_eq_self (h : ∀ c ∈ cs.head?, isBlank c = false) :
    cs.dropWhile isBlank = cs := by
  cases cs with
  | nil => rfl
  | cons c cs => exact List.dropWhile_cons_of_neg (Bool.eq_false_iff.1 (h c rfl))

theorem trimChars_eq_self (hfirst : ∀ c ∈ cs.head?, isBlank c = false)
    (hlast : ∀ c ∈ cs.getLast?, isBlank c = false) : trimChars cs = cs := by
  have hreverse : ∀ c ∈ cs.reverse.head?, isBlank c = false := by rwa [List.head?_reverse]
  rw [trimChars, dropWhile_isBlank_eq_self hfirst, dropWhile_isBlank_eq_self hreverse,
    List.reverse_reverse]

/-! ## Padding -/

theorem trimChars_append (hp : ∀ c ∈ ps, isBlank c = true) (hq : ∀ c ∈ qs, isBlank c = true) :
    trimChars (ps ++ cs ++ qs) = trimChars cs := by
  have hq' : ∀ c ∈ qs.reverse, isBlank c = true := fun c hc ↦ hq c (List.mem_reverse.1 hc)
  rw [trimChars, trimChars, List.append_assoc, List.dropWhile_append_of_pos hp,
    List.dropWhile_append]
  split
  · rename_i hempty
    -- nothing but blanks is in front of the second padding, so all of it is dropped from the left
    rw [List.isEmpty_iff.1 hempty, List.dropWhile_eq_nil_iff.2 hq]
  · rw [List.reverse_append, List.dropWhile_append_of_pos hq']

theorem isBlankText_iff : isBlankText s = true ↔ ∀ c ∈ s.toList, isBlank c = true :=
  List.all_eq_true

theorem trim_append (hp : isBlankText p = true) (hq : isBlankText q = true) (s : String) :
    trim (p ++ s ++ q) = trim s := by
  rw [← String.toList_inj, toList_trim, toList_trim, String.toList_append, String.toList_append]
  exact trimChars_append (isBlankText_iff.1 hp) (isBlankText_iff.1 hq)

/-- The text `t` is what stands between the leading and the trailing blanks of `s`. -/
structure Trims (s t : String) : Prop where
  padded : ∃ p q, isBlankText p = true ∧ isBlankText q = true ∧ s = p ++ t ++ q
  first : ∀ c ∈ t.toList.head?, isBlank c = false
  last : ∀ c ∈ t.toList.getLast?, isBlank c = false

theorem trimChars_eq_rdropWhile (cs : List Char) :
    trimChars cs = (cs.dropWhile isBlank).rdropWhile isBlank := rfl

theorem exists_eq_append_trimChars (cs : List Char) :
    ∃ ps qs, (∀ c ∈ ps, isBlank c = true) ∧ (∀ c ∈ qs, isBlank c = true) ∧
      cs = ps ++ trimChars cs ++ qs := by
  refine ⟨cs.takeWhile isBlank, (cs.dropWhile isBlank).rtakeWhile isBlank,
    fun c ↦ List.mem_takeWhile_imp, fun c ↦ List.mem_rtakeWhile_imp, ?_⟩
  rw [trimChars_eq_rdropWhile, List.append_assoc, List.rdropWhile_append_rtakeWhile,
    List.takeWhile_append_dropWhile]

theorem trimChars_eq_nil_iff : trimChars cs = [] ↔ ∀ c ∈ cs, isBlank c = true := by
  constructor
  · intro h
    obtain ⟨ps, qs, hp, hq, hcs⟩ := exists_eq_append_trimChars cs
    rw [hcs, h, List.append_nil, List.forall_mem_append]
    exact ⟨hp, hq⟩
  · intro h
    -- such a text is padding in front of nothing
    have htrim : trimChars (cs ++ [] ++ []) = trimChars [] := trimChars_append h nofun
    rwa [List.append_nil, List.append_nil] at htrim

theorem trim_eq_empty_iff : trim s = "" ↔ isBlankText s = true := by
  rw [← String.toList_inj, toList_trim, isBlankText_iff]
  exact trimChars_eq_nil_iff

theorem isBlank_of_mem_head?_trimChars (cs : List Char) :
    ∀ c ∈ (trimChars cs).head?, isBlank c = false := by
  intro c hc
  -- a first character that is left is the first one that is no leading blank
  have hprefix : trimChars cs <+: cs.dropWhile isBlank := List.rdropWhile_prefix isBlank _
  obtain ⟨ds, hds⟩ := hprefix
  have hhead : (cs.dropWhile isBlank).head? = some c :=
    hds ▸ List.mem_head?_append_of_mem_head? hc
  have hnot := List.head?_dropWhile_not isBlank cs
  rwa [hhead] at hnot

theorem isBlank_of_mem_getLast?_trimChars (cs : List Char) :
    ∀ c ∈ (trimChars cs).getLast?, isBlank c = false := by
  intro c hc
  obtain ⟨hne, rfl⟩ := List.mem_getLast?_eq_getLast hc
  exact Bool.eq_false_iff.2 (List.rdropWhile_last_not isBlank _ hne)

/-- What trimming leaves is the one part of a text that has blanks only around it and none at either
end. -/
theorem trims_iff : Trims s t ↔ t = trim s := by
  constructor
  · rintro ⟨⟨p, q, hp, hq, rfl⟩, hfirst, hlast⟩
    rw [trim_append hp hq, ← String.toList_inj, toList_trim, trimChars_eq_self hfirst hlast]
  · rintro rfl
    obtain ⟨ps, qs, hp, hq, hs⟩ := exists_eq_append_trimChars s.toList
    refine ⟨⟨.ofList ps, .ofList qs, ?_, ?_, ?_⟩, ?_, ?_⟩
    · rw [isBlankText_iff, String.toList_ofList]
      exact hp
    · rw [isBlankText_iff, String.toList_ofList]
      exact hq
    · rw [← String.toList_inj, String.toList_append, String.toList_append, toList_trim,
        String.toList_ofList, String.toList_ofList]
      exact hs
    · rw [toList_trim]
      exact isBlank_of_mem_head?_trimChars _
    · rw [toList_trim]
      exact isBlank_of_mem_getLast?_trimChars _

end KeywordValues.Text
