import KeywordValues.Json.Scanned

/-!
# Quoted texts

A text in quotes writes quotes, backslashes and control characters behind a backslash, and may write
any character as one or two UTF-16 units in hexadecimal. `encode` writes the characters of a text
and `decode` reads up to the closing quote.
-/

namespace KeywordValues.Json.Quoted

/-- The lower-case hexadecimal digit of a number below sixteen. -/
def hexDigit (n : Nat) : Char := Nat.digitChar n

/-- A character inside quotes. -/
def encodeChar (c : Char) : List Char :=
  if c = '"' then ['\\', '"']
  else if c = '\\' then ['\\', '\\']
  else if c = '\x08' then ['\\', 'b']
  else if c = '\x0c' then ['\\', 'f']
  else if c = '\n' then ['\\', 'n']
  else if c = '\r' then ['\\', 'r']
  else if c = '\t' then ['\\', 't']
  else if c.toNat < 0x20 then
    ['\\', 'u', '0', '0', hexDigit (c.toNat / 16), hexDigit (c.toNat % 16)]
  else [c]

/-- The characters of a text inside quotes. -/
def encode (cs : List Char) : List Char := cs.flatMap encodeChar

/-- A text in quotes. -/
def quote (cs : List Char) : List Char := '"' :: (encode cs ++ ['"'])

/-- The value of a hexadecimal digit of either case. -/
def hexValue? (c : Char) : Option Nat :=
  if '0' ≤ c ∧ c ≤ '9' then some (c.toNat - '0'.toNat)
  else if 'a' ≤ c ∧ c ≤ 'f' then some (c.toNat - 'a'.toNat + 10)
  else if 'A' ≤ c ∧ c ≤ 'F' then some (c.toNat - 'A'.toNat + 10)
  else none

/-- Four hexadecimal digits as a UTF-16 unit. The digits are taken four bytes at once. -/
def unit : Scanner Nat
  | a :: b :: c :: d :: r =>
      match hexValue? a, hexValue? b, hexValue? c, hexValue? d with
      | some w, some x, some y, some z =>
          .ok ⟨((w * 16 + x) * 16 + y) * 16 + z, r, by simp only [List.length_cons]; omega⟩
      | _, _, _, _ => .error (.within .invalidEscape 4 (a :: b :: c :: d :: r))
  | s => .error (.within (if byteSize s < 4 then .eofString else .invalidEscape) 4 s)

/-- Whether a UTF-16 unit is the first of two. -/
def isLeading (n : Nat) : Bool := 0xD800 ≤ n && n < 0xDC00

/-- Whether a UTF-16 unit is the second of two. -/
def isTrailing (n : Nat) : Bool := 0xDC00 ≤ n && n < 0xE000

/-- The character of two UTF-16 units. -/
def pairChar (n m : Nat) : Char := Char.ofNat ((n - 0xD800) * 0x400 + (m - 0xDC00) + 0x10000)

/-- The second of two UTF-16 units, behind `\u`. -/
def trailingUnit : Scanner Nat
  | '\\' :: 'u' :: r =>
      match unit r with
      | .error e => .error e
      | .ok m =>
          if isTrailing m.value then .ok (m.widen (by simp only [List.length_cons]; omega))
          else .error (.before .loneSurrogate m.rest)
  | [] | ['\\'] => .error ⟨.eofString, 0⟩
  | '\\' :: r => .error (.facing .unfinishedSurrogates r)
  | s => .error (.facing .unfinishedSurrogates s)

/-- A character written in hexadecimal, behind `\u`. -/
def hexChar : Scanner Char := fun s ↦
  match unit s with
  | .error e => .error e
  | .ok n =>
      if isTrailing n.value then .error (.before .loneSurrogate n.rest)
      else if isLeading n.value then
        match trailingUnit n.rest with
        | .error e => .error e
        | .ok m => .ok ((m.map (pairChar n.value)).widen (Nat.le_of_lt n.shorter))
      else .ok (n.map Char.ofNat)

/-- The character that a letter stands for behind a backslash. -/
def shortEscape? : Char → Option Char
  | '"' => some '"'
  | '\\' => some '\\'
  | '/' => some '/'
  | 'b' => some '\x08'
  | 'f' => some '\x0c'
  | 'n' => some '\n'
  | 'r' => some '\r'
  | 't' => some '\t'
  | _ => none

/-- A character behind a backslash. -/
def escaped : Scanner Char
  | [] => .error ⟨.eofString, 0⟩
  | c :: r =>
      if c = 'u' then
        match hexChar r with
        | .error e => .error e
        | .ok d => .ok (d.behind c)
      else match shortEscape? c with
        | some d => .ok ⟨d, r, length_lt_length_cons c r⟩
        | none => .error (.facing .invalidEscape (c :: r))

/-- The characters up to the closing quote, behind those already read, which are kept last
first. The text `t` is where the reading began. -/
def decodeFrom (t : List Char) (read : List Char) (s : List Char) (h : s.length ≤ t.length) :
    Except Fault (Scanned t (List Char)) :=
  match s, h with
  | [], _ => .error ⟨.eofString, 0⟩
  | c :: r, h =>
      have hr : r.length < t.length := h
      if c = '"' then .ok ⟨read.reverse, r, hr⟩
      else if c = '\\' then
        match escaped r with
        | .error e => .error e
        | .ok d =>
            have := d.shorter
            decodeFrom t (d.value :: read) d.rest (by omega)
      else if c.toNat < 0x20 then .error (.facing .controlCharacter (c :: r))
      else decodeFrom t (c :: read) r (Nat.le_of_lt hr)
termination_by s.length

/-- The characters up to the closing quote, behind the opening one. -/
def decode : Scanner String := fun s ↦
  match decodeFrom s [] s (length_le_self s) with
  | .error e => .error e
  | .ok t => .ok (t.map String.ofList)

end KeywordValues.Json.Quoted
