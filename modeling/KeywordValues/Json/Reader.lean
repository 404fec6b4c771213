import KeywordValues.Json.Basic
import KeywordValues.Json.Quoted
import KeywordValues.Decimal.Numeral

/-!
# Reading JSON

A reader for each form of value, from its first character on. The reader of nested values takes the
number of levels that may still be opened, and arrays and objects pass on one less. `read` takes a
whole text; where several faults are in it, the first from the left is reported.
-/

namespace KeywordValues.Json.Reader

open Decimal (Numeral isDigit digitValue)

/-- The characters that may stand around values. -/
def isSpace (c : Char) : Bool := c == ' ' || c == '\t' || c == '\n' || c == '\r'

/-- The text from its first character other than space on. -/
def skip (s : List Char) : List Char := s.dropWhile isSpace

theorem length_dropWhile_le (p : Char → Bool) (s : List Char) :
    (s.dropWhile p).length ≤ s.length :=
  (List.dropWhile_suffix p).length_le

theorem length_skip_le (s : List Char) : (skip s).length ≤ s.length :=
  length_dropWhile_le isSpace s

theorem length_lt_of_skip_eq_cons {s r : List Char} {c : Char} (h : skip s = c :: r) :
    r.length < s.length := by
  have hs := length_skip_le s
  rwa [h] at hs

/-! ## Words and numerals -/

/-- The letters of a word behind its first one. -/
def ident : (letters : List Char) → (s : List Char) →
    Except Fault { r : List Char // r.length ≤ s.length }
  | [], s => .ok ⟨s, Nat.le_refl _⟩
  | _ :: _, [] => .error ⟨.eofValue, 0⟩
  | l :: ls, c :: s =>
      if c = l then
        match ident ls s with
        | .error e => .error e
        | .ok ⟨r, h⟩ => .ok ⟨r, Nat.le_succ_of_le h⟩
      else .error (.facing .expectedIdent (c :: s))

/-- The values of the leading digits. -/
def digits (s : List Char) : List Nat := (s.takeWhile isDigit).map digitValue

/-- The text behind its leading digits. -/
def skipDigits (s : List Char) : List Char := s.dropWhile isDigit

theorem length_skipDigits_le (s : List Char) : (skipDigits s).length ≤ s.length :=
  length_dropWhile_le isDigit s

theorem length_skipDigits_lt (c : Char) (s : List Char) :
    (skipDigits s).length < (c :: s).length :=
  Nat.lt_succ_of_le (length_skipDigits_le s)

/-- The digits of an integer, a zero only alone. -/
def wholePart : Scanner (List Nat)
  | [] => .error ⟨.eofValue, 0⟩
  | c :: r =>
      if c = '0' then
        match digits r with
        | [] => .ok ⟨[0], r, length_lt_length_cons c r⟩
        | _ :: _ => .error (.facing .invalidNumber r)
      else if isDigit c then
        .ok ⟨digits (c :: r), skipDigits r, length_skipDigits_lt c r⟩
      else .error (.facing .invalidNumber (c :: r))

/-- The digits of a fraction, behind its point. -/
def fractionPart (s : List Char) :
    Except Fault { p : List Nat × List Char // p.2.length ≤ s.length } :=
  match digits s with
  | [] => .error (.facing (if s.isEmpty then .eofValue else .invalidNumber) s)
  | ds => .ok ⟨(ds, skipDigits s), length_skipDigits_le s⟩

/-- Whether an exponent is negative, and the text behind its sign. -/
def exponentSign : List Char → Bool × List Char
  | '+' :: s => (false, s)
  | '-' :: s => (true, s)
  | s => (false, s)

theorem length_exponentSign_le (s : List Char) : (exponentSign s).2.length ≤ s.length := by
  unfold exponentSign
  split <;> simp

/-- The sign and the digits of an exponent, behind its letter. -/
def exponentPart (s : List Char) :
    Except Fault { p : (Bool × List Nat) × List Char // p.2.length ≤ s.length } :=
  let x := exponentSign s
  match digits x.2 with
  | [] => .error (.facing (if x.2.isEmpty then .eofValue else .invalidNumber) x.2)
  | ds => .ok ⟨((x.1, ds), skipDigits x.2),
      Nat.le_trans (length_skipDigits_le x.2) (length_exponentSign_le s)⟩

/-- Whether a character begins an exponent. -/
def isExponentMark (c : Char) : Bool := c == 'e' || c == 'E'

/-- The fraction, if a point comes next. -/
def fraction? (s : List Char) :
    Except Fault { p : Option (List Nat) × List Char // p.2.length ≤ s.length } :=
  match s with
  | '.' :: r =>
      match fractionPart r with
      | .error e => .error e
      | .ok ⟨(ds, t), h⟩ => .ok ⟨(some ds, t), Nat.le_succ_of_le h⟩
  | s => .ok ⟨(none, s), Nat.le_refl _⟩

/-- The exponent, if its letter comes next. -/
def exponent? (s : List Char) :
    Except Fault { p : Option (Bool × List Nat) × List Char // p.2.length ≤ s.length } :=
  match s with
  | [] => .ok ⟨(none, []), Nat.le_refl _⟩
  | c :: r =>
      if isExponentMark c then
        match exponentPart r with
        | .error e => .error e
        | .ok ⟨(x, t), h⟩ => .ok ⟨(some x, t), Nat.le_succ_of_le h⟩
      else .ok ⟨(none, c :: r), Nat.le_refl _⟩

/-- A numeral behind its sign. -/
def unsigned (negative : Bool) : Scanner Numeral := fun s ↦
  match wholePart s with
  | .error e => .error e
  | .ok w =>
      match fraction? w.rest with
      | .error e => .error e
      | .ok ⟨(f, t), ht⟩ =>
          match exponent? t with
          | .error e => .error e
          | .ok ⟨(x, r), hr⟩ =>
              have := w.shorter
              have : t.length ≤ w.rest.length := ht
              have : r.length ≤ t.length := hr
              .ok ⟨⟨negative, w.value, f.getD [], x, f.isNone && x.isNone⟩, r, by omega⟩

/-- The value of a numeral as JSON. -/
def ofNumeral {s : List Char} (n : Scanned s Numeral) : Except Fault (Scanned s Json) :=
  match n.value.value with
  | .whole w => .ok (n.map fun _ ↦ .whole w)
  | .double x => .ok (n.map fun _ ↦ .double x)
  | .outOfRange unread => .error ⟨.numberOutOfRange, byteSize n.rest + unread⟩

/-! ## Arrays and objects -/

/-- The items of an array behind its bracket or a comma, those before them last first. -/
def items (item : Scanner Json) (t : List Char) (before : List Json) (s : List Char)
    (h : s.length ≤ t.length) : Except Fault (Scanned t (List Json)) :=
  match item s with
  | .error e => .error e
  | .ok j =>
      have hj : (skip j.rest).length < s.length :=
        Nat.lt_of_le_of_lt (length_skip_le _) j.shorter
      match hk : skip j.rest with
      | [] => .error ⟨.eofList, 0⟩
      | c :: r =>
          have hr : r.length + 1 < s.length := by simpa [hk] using hj
          if c = ']' then .ok ⟨(j.value :: before).reverse, r, by omega⟩
          else if c = ',' then
            match skip r with
            | [] => .error ⟨.eofValue, 0⟩
            | ']' :: u => .error (.facing .trailingComma (']' :: u))
            | _ => items item t (j.value :: before) r (by omega)
          else .error (.facing .expectedListEnd (c :: r))
termination_by s.length

/-- An array behind its bracket. -/
def array (item : Scanner Json) : Scanner Json := fun s ↦
  match h : skip s with
  | [] => .error ⟨.eofList, 0⟩
  | ']' :: r => .ok ⟨.array [], r, length_lt_of_skip_eq_cons h⟩
  | _ =>
      match items item s [] s (length_le_self s) with
      | .error e => .error e
      | .ok js => .ok (js.map .array)

/-- The value of a member, behind its name. -/
def memberValue (item : Scanner Json) : Scanner Json := fun s ↦
  match h : skip s with
  | [] => .error ⟨.eofObject, 0⟩
  | ':' :: r =>
      match item r with
      | .error e => .error e
      | .ok j => .ok (j.widen (Nat.le_of_lt (length_lt_of_skip_eq_cons h)))
  | r => .error (.facing .expectedColon r)

/-- A member, behind the quote that opens its name. -/
def member (item : Scanner Json) : Scanner (String × Json) := fun s ↦
  match Quoted.decode s with
  | .error e => .error e
  | .ok k =>
      match memberValue item k.rest with
      | .error e => .error e
      | .ok j => .ok ((j.map fun v ↦ (k.value, v)).widen (Nat.le_of_lt k.shorter))

/-- The members of an object behind the quote that opens a name, those before them last first. -/
def members (item : Scanner Json) (t : List Char) (before : List (String × Json))
    (s : List Char) (h : s.length ≤ t.length) :
    Except Fault (Scanned t (List (String × Json))) :=
  match member item s with
  | .error e => .error e
  | .ok m =>
      have hm : (skip m.rest).length < s.length :=
        Nat.lt_of_le_of_lt (length_skip_le _) m.shorter
      match hk : skip m.rest with
      | [] => .error ⟨.eofObject, 0⟩
      | c :: r =>
          have hr : r.length + 1 < s.length := by simpa [hk] using hm
          if c = '}' then .ok ⟨(m.value :: before).reverse, r, by omega⟩
          else if c = ',' then
            match hu : skip r with
            | [] => .error ⟨.eofValue, 0⟩
            | '"' :: u =>
                have := length_lt_of_skip_eq_cons hu
                members item t (m.value :: before) u (by omega)
            | '}' :: u => .error (.facing .trailingComma ('}' :: u))
            | u => .error (.facing .keyNotString u)
          else .error (.facing .expectedObjectEnd (c :: r))
termination_by s.length

/-- An object behind its brace. -/
def object (item : Scanner Json) : Scanner Json := fun s ↦
  match h : skip s with
  | [] => .error ⟨.eofObject, 0⟩
  | '}' :: r => .ok ⟨.object [], r, length_lt_of_skip_eq_cons h⟩
  | '"' :: r =>
      match members item r [] r (length_le_self r) with
      | .error e => .error e
      | .ok ms =>
          .ok ((ms.map fun ms ↦ ofFields (.ofList ms)).widen
            (Nat.le_of_lt (length_lt_of_skip_eq_cons h)))
  | r => .error (.facing .keyNotString r)

/-! ## Values and texts -/

/-- The rest of a word, and the value it stands for. -/
def literal (letters : List Char) (j : Json) : Scanner Json
  | [] => .error ⟨.eofValue, 0⟩
  | _ :: r =>
      match ident letters r with
      | .error e => .error e
      | .ok ⟨t, h⟩ => .ok ⟨j, t, Nat.lt_succ_of_le h⟩

/-- A numeral with its sign. -/
def number : Scanner Json
  | '-' :: r =>
      match unsigned true r with
      | .error e => .error e
      | .ok n => ofNumeral (n.behind '-')
  | s =>
      match unsigned false s with
      | .error e => .error e
      | .ok n => ofNumeral n

/-- A value from its first character on. Arrays and objects are read with `item`, and are too
deep where there is none. -/
def bare (item : Option (Scanner Json)) : Scanner Json
  | [] => .error ⟨.eofValue, 0⟩
  | c :: r =>
      if c = '"' then
        match Quoted.decode r with
        | .error e => .error e
        | .ok t => .ok ((t.map .string).behind c)
      else if c = '[' ∨ c = '{' then
        match item with
        | none => .error (.facing .tooDeep (c :: r))
        | some item =>
            match if c = '[' then array item r else object item r with
            | .error e => .error e
            | .ok j => .ok (j.behind c)
      else if c = 't' then literal ['r', 'u', 'e'] (.bool true) (c :: r)
      else if c = 'f' then literal ['a', 'l', 's', 'e'] (.bool false) (c :: r)
      else if c = 'n' then literal ['u', 'l', 'l'] .null (c :: r)
      else if c = '-' ∨ isDigit c then number (c :: r)
      else .error (.facing .expectedValue (c :: r))

/-- A value behind space, with at most `levels` arrays and objects around any part of it. -/
def value : (levels : Nat) → Scanner Json
  | 0, s => spaced none s
  | n + 1, s => spaced (some (value n)) s
where
  /-- A value behind space. -/
  spaced (item : Option (Scanner Json)) : Scanner Json := fun s ↦
    match bare item (skip s) with
    | .error e => .error e
    | .ok j => .ok (j.widen (length_skip_le s))

/-- How many arrays and objects may stand around a value. -/
def maxLevels : Nat := 127

/-- A value with nothing but space behind it. -/
def text (s : List Char) : Except Fault Json :=
  match value maxLevels s with
  | .error e => .error e
  | .ok j =>
      match skip j.rest with
      | [] => .ok j.value
      | r => .error (.facing .trailingCharacters r)

end KeywordValues.Json.Reader

namespace KeywordValues.Json

/-- The value of a JSON text. -/
def read (s : String) : Except ReadError Json :=
  match Reader.text s.toList with
  | .error f => .error (.ofFault s.toList f)
  | .ok j => .ok j

end KeywordValues.Json
