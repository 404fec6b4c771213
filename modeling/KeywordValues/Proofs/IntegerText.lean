import KeywordValues.Proofs.DoubleRange
import KeywordValues.Proofs.Json.Reader
import KeywordValues.Proofs.ValueJson

/-!
# Texts of integers

What an integer written in decimal is read as depends on where it lies. Between `-2 ^ 63` and
`2 ^ 63` it is an integer again, and from there to `2 ^ 64` it is refused, with a message that names
it. The reader of JSON has no integers beyond: it makes a double of the leading digits that fit
64 bits, and a double has a node. So an integer below `-2 ^ 63` or from `2 ^ 64` on is a number, and
it is refused only where this double would be infinite.
-/

namespace KeywordValues

open Decimal (integer integerText Numeral Word)

variable {i : Int} {k : Nat}

/-! ## Texts in JSON -/

namespace Json

theorem Position.advance_length {cs : List Char} (h : ∀ c ∈ cs, c.utf8Size = 1 ∧ c ≠ '\n')
    (p : Position) : p.advance cs.length cs = ⟨p.line, p.column + cs.length⟩ := by
  induction cs generalizing p with
  | nil => rfl
  | cons c cs ih =>
      obtain ⟨⟨hsize, hline⟩, hcs⟩ := List.forall_mem_cons.1 h
      have hlt : ¬ cs.length + 1 < 1 := by omega
      rw [List.length_cons, advance, hsize, if_neg hlt, if_neg hline, Nat.add_sub_cancel, ih hcs,
        Nat.add_assoc, Nat.add_comm 1]

@[simp] theorem byteSize_cons (c : Char) (cs : List Char) :
    byteSize (c :: cs) = c.utf8Size + byteSize cs := rfl

theorem byteSize_eq_length {cs : List Char} (h : ∀ c ∈ cs, c.utf8Size = 1) :
    byteSize cs = cs.length := by
  induction cs with
  | nil => rfl
  | cons c cs ih =>
      obtain ⟨hc, hcs⟩ := List.forall_mem_cons.1 h
      rw [byteSize_cons, hc, ih hcs, List.length_cons, Nat.add_comm]

theorem utf8Size_of_mem_integer {c : Char} (hc : c ∈ integer i) : c.utf8Size = 1 ∧ c ≠ '\n' := by
  have hnumeral := (Decimal.Signed.integer i).chars c hc
  simp only [Decimal.isNumeralChar, Bool.or_eq_true, beq_iff_eq] at hnumeral
  rcases hnumeral with (((hdigit | rfl) | rfl) | rfl) | rfl
  · obtain ⟨hlow, hhigh⟩ : 48 ≤ c.toNat ∧ c.toNat ≤ 57 := Char.isDigit_iff_toNat.1 hdigit
    have hascii : c.val ≤ 127 := UInt32.le_iff_toNat_le.2 (Nat.le_trans hhigh (by decide))
    refine ⟨Char.utf8Size_eq_one_iff.2 hascii, ?_⟩
    rintro rfl
    exact absurd hlow (by decide)
  all_goals decide

namespace Reader

theorem spaced_of_skip_eq {level : Option (Scanner Json)} {s t : List Char} (h : skip s = t)
    (hlen : t.length ≤ s.length) :
    value.spaced level s = match bare level t with
      | .error e => .error e
      | .ok j => .ok (j.widen hlen) := by
  subst h
  rw [value.spaced]
  cases bare level (skip s) <;> rfl

/-- What the text of an integer is read as is decided by the value of its numeral. -/
theorem text_integer (i : Int) : text (integer i) =
    match (Numeral.ofInt i).value with
    | .whole w => .ok (.whole w)
    | .double x => .ok (.double x)
    | .outOfRange unread => .error ⟨.numberOutOfRange, unread⟩ := by
  have hnumber := exists_number_integer i stops_nil
  rw [List.append_nil] at hnumber
  obtain ⟨h, hnumber⟩ := hnumber
  obtain ⟨c, s, hs, hc⟩ := Decimal.exists_integer_eq_cons i
  generalize integer i = t at h hnumber hs ⊢
  subst hs
  have hbegins : begins c = true := hc.elim (fun h ↦ h ▸ rfl) begins_of_isDigit
  have hvalue : value maxLevels (c :: s) = value.spaced (some (value 126)) (c :: s) := rfl
  rw [text, hvalue, spaced_of_skip_eq (skip_cons hbegins s) (Nat.le_refl _), bare_of_numeral hc,
    hnumber, ofNumeral]
  cases (Numeral.ofInt i).value with
  | whole w => rfl
  | double x => rfl
  | outOfRange unread =>
      simp only [byteSize, List.foldr_nil, Nat.zero_add]

end Reader

/-- A whole number of 64 bits is read from its text. -/
theorem read_integerText_val (w : Word) : read (integerText w.val) = .ok (.whole w) := by
  rw [read, integerText, String.toList_ofList, Reader.text_integer, Numeral.value_ofInt_val]

/-- An integer beyond 64 bits is read as the double that its first digits give, if it is finite. -/
theorem read_integerText_of_excess (hi : Word.ofInt? i = none) (h : Numeral.Excess i.natAbs k) :
    read (integerText i) =
      match Numeral.scale? (UInt64.ofNat (i.natAbs / 10 ^ k)).toFloat k with
      | some x => .ok (.double (if i < 0 then -x else x))
      | none => .error ⟨.numberOutOfRange, ⟨1, (integer i).length⟩⟩ := by
  rw [read, integerText, String.toList_ofList, Reader.text_integer, Numeral.value_ofInt h, hi]
  simp only [Numeral.double]
  cases Numeral.scale? (UInt64.ofNat (i.natAbs / 10 ^ k)).toFloat k with
  | some x => simp only [Numeral.signed, Numeral.ofInt_eq, Numeral.ofNat, decide_eq_true_eq]
  | none =>
      have hsize : ∀ c ∈ integer i, c.utf8Size = 1 ∧ c ≠ '\n' := fun _ ↦ utf8Size_of_mem_integer
      have hbytes : byteSize (integer i) = (integer i).length :=
        byteSize_eq_length fun c hc ↦ (hsize c hc).1
      simp only [ReadError.ofFault, Position.after, hbytes, Nat.sub_zero,
        Position.advance_length hsize, Nat.zero_add]

end Json

/-! ## Texts of nodes -/

namespace Node

theorem read_integerText_of_word (w : Word) : read (integerText w.val) =
    match w.toInt64? with
    | some n => .ok (.scalar (.integer n))
    | none => .error (.unsupported ⟨.outOfRange w.val, none⟩) := by
  rw [read, Json.read_integerText_val]
  simp only [ofJson, Scalar.ofJson]
  cases w.toInt64? <;> rfl

theorem read_integerText_of_excess (hi : Word.ofInt? i = none) (h : Numeral.Excess i.natAbs k) :
    read (integerText i) =
      match Numeral.scale? (UInt64.ofNat (i.natAbs / 10 ^ k)).toFloat k with
      | some x => .ok (.scalar (.number (if i < 0 then -x else x)))
      | none => .error (.invalid ⟨.numberOutOfRange, ⟨1, (integer i).length⟩⟩) := by
  rw [read, Json.read_integerText_of_excess hi h]
  cases Numeral.scale? (UInt64.ofNat (i.natAbs / 10 ^ k)).toFloat k <;> rfl

/-- The integers that are read from their texts as integers are those of a signed word. -/
theorem read_integerText_eq_integer_iff {n : Int64} :
    read (integerText i) = .ok (.scalar (.integer n)) ↔ n.toInt = i := by
  cases hi : Word.ofInt? i with
  | some w =>
      obtain rfl := Word.ofInt?_eq_some_iff.1 hi
      rw [read_integerText_of_word, ← Word.toInt64?_eq_some_iff]
      cases w.toInt64? <;> simp
  | none =>
      obtain ⟨k, hk⟩ := Numeral.exists_excess i.natAbs
      rw [read_integerText_of_excess hi hk]
      constructor
      · intro h
        split at h <;> cases h
      · intro h
        rw [Word.ofInt?_eq_some_iff.2 ((Word.val_ofInt64 n).trans h)] at hi
        cases hi

/-- An unsigned word that is no signed one is refused by its text. -/
theorem read_integerText_of_unsigned (hi : 2 ^ 63 ≤ i ∧ i < 2 ^ 64) :
    read (integerText i) = .error (.unsupported ⟨.outOfRange i, none⟩) := by
  let w : Word := ⟨i, by omega, hi.2⟩
  have hw : w.toInt64? = none := if_neg (Int.not_lt.2 hi.1)
  have hread := read_integerText_of_word w
  rwa [hw] at hread

/-- An integer is read from its text as itself if it is one of a signed word, and no other text of
an integer is read as it. An integer above these is refused as out of range as long as it is one of
an unsigned word. Beyond 64 bits the double of the leading digits that fit them is scaled by the
number of digits left out: this is what is read if it is finite, as it is for any integer below
`10 ^ 307` in magnitude, and otherwise the text is refused as no JSON. -/
theorem read_integerText (i : Int) :
    (∀ n : Int64, read (integerText i) = .ok (.scalar (.integer n)) ↔ n.toInt = i) ∧
    (2 ^ 63 ≤ i ∧ i < 2 ^ 64 →
      read (integerText i) = .error (.unsupported ⟨.outOfRange i, none⟩)) ∧
    (i < -2 ^ 63 ∨ 2 ^ 64 ≤ i →
      (∃ k, Numeral.Excess i.natAbs k ∧ read (integerText i) =
        match Numeral.scale? (UInt64.ofNat (i.natAbs / 10 ^ k)).toFloat k with
        | some x => .ok (.scalar (.number (if i < 0 then -x else x)))
        | none => .error (.invalid ⟨.numberOutOfRange, ⟨1, (integer i).length⟩⟩)) ∧
      (i.natAbs < 10 ^ 307 → ∃ x, read (integerText i) = .ok (.scalar (.number x)))) := by
  refine ⟨fun n ↦ read_integerText_eq_integer_iff, read_integerText_of_unsigned, fun hi ↦ ?_⟩
  have hword : Word.ofInt? i = none := Word.ofInt?_eq_none hi
  obtain ⟨k, hk⟩ := Numeral.exists_excess i.natAbs
  have hread := read_integerText_of_excess hword hk
  refine ⟨⟨k, hk, hread⟩, fun hlt ↦ ?_⟩
  have hk288 : k ≤ 288 := hk.le_of_lt hlt (by decide)
  obtain ⟨x, hx⟩ := Decimal.exists_scale?_eq_some (UInt64.ofNat (i.natAbs / 10 ^ k)) hk288
  rw [hx] at hread
  exact ⟨_, hread⟩

/-- The greatest integer below those of a signed word is read as a double. -/
theorem read_integerText_of_neg_two_pow_63_sub_one :
    (-2 ^ 63 - 1 : Int) < -2 ^ 63 ∧ (-2 ^ 63 - 1 : Int).natAbs < 10 ^ 307 ∧
      ∃ x, read "-9223372036854775809" = .ok (.scalar (.number x)) := by
  have htext : integerText (-2 ^ 63 - 1) = "-9223372036854775809" := by decide
  have hlt : (-2 ^ 63 - 1 : Int) < -2 ^ 63 := by decide
  have hdigits : (-2 ^ 63 - 1 : Int).natAbs < 10 ^ 19 := by decide
  have hsmall : (-2 ^ 63 - 1 : Int).natAbs < 10 ^ 307 :=
    hdigits.trans_le (pow_le_pow_right₀ (by decide) (by decide))
  exact ⟨hlt, hsmall, htext ▸ ((read_integerText _).2.2 (.inl hlt)).2 hsmall⟩

/-- The least integer above those of 64 bits is not refused: its text is read as a double. -/
theorem read_two_pow_64_eq_number :
    integerText (2 ^ 64) = "18446744073709551616" ∧
      ∃ x, read "18446744073709551616" = .ok (.scalar (.number x)) := by
  have htext : integerText (2 ^ 64) = "18446744073709551616" := by decide
  have hexcess : Numeral.Excess (2 ^ 64 : Int).natAbs 1 := ⟨by decide, by decide⟩
  obtain ⟨x, hx⟩ := Decimal.exists_scale?_eq_some
    (UInt64.ofNat ((2 ^ 64 : Int).natAbs / 10 ^ 1)) (show 1 ≤ 288 by decide)
  have hread := read_integerText_of_excess (Word.ofInt?_eq_none (.inr Int.le_rfl)) hexcess
  rw [htext, hx] at hread
  exact ⟨htext, _, hread⟩

end Node

end KeywordValues
