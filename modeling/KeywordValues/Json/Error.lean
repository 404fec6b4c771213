import KeywordValues.Decimal.Whole

/-!
# Where and why a text is not JSON

A fault names its cause and how many bytes of the text are left behind the place where it was
noticed. `Position.after` turns the number of bytes before that place into a line and a column.
-/

namespace KeywordValues.Json

/-- Why a text is not JSON. -/
inductive Cause where
  | eofValue
  | eofList
  | eofObject
  | eofString
  | expectedValue
  | expectedIdent
  | expectedColon
  | expectedListEnd
  | expectedObjectEnd
  | trailingComma
  | trailingCharacters
  | keyNotString
  | controlCharacter
  | invalidEscape
  | invalidNumber
  | numberOutOfRange
  | loneSurrogate
  | unfinishedSurrogates
  | tooDeep
deriving DecidableEq, Repr

/-- The wording of a cause. -/
def Cause.message : Cause → String
  | .eofValue => "EOF while parsing a value"
  | .eofList => "EOF while parsing a list"
  | .eofObject => "EOF while parsing an object"
  | .eofString => "EOF while parsing a string"
  | .expectedValue => "expected value"
  | .expectedIdent => "expected ident"
  | .expectedColon => "expected `:`"
  | .expectedListEnd => "expected `,` or `]`"
  | .expectedObjectEnd => "expected `,` or `\x7d`"
  | .trailingComma => "trailing comma"
  | .trailingCharacters => "trailing characters"
  | .keyNotString => "key must be a string"
  | .controlCharacter => "control character (\\u0000-\\u001F) found while parsing a string"
  | .invalidEscape => "invalid escape"
  | .invalidNumber => "invalid number"
  | .numberOutOfRange => "number out of range"
  | .loneSurrogate => "lone leading surrogate in hex escape"
  | .unfinishedSurrogates => "unexpected end of hex escape"
  | .tooDeep => "recursion limit exceeded"

/-- How many bytes characters take in UTF-8. -/
def byteSize (cs : List Char) : Nat := cs.foldr (fun c n ↦ c.utf8Size + n) 0

/-- A cause, and how many bytes are left behind the place where it was noticed. -/
structure Fault where
  cause : Cause
  unread : Nat
deriving DecidableEq, Repr

namespace Fault

/-- A fault noticed before the rest of a text. -/
def before (cause : Cause) (rest : List Char) : Fault := ⟨cause, byteSize rest⟩

/-- A fault noticed after the first bytes of the rest of a text, or at its end if it has fewer. -/
def within (cause : Cause) (bytes : Nat) (rest : List Char) : Fault :=
  ⟨cause, byteSize rest - bytes⟩

/-- A fault noticed at the first byte of the rest of a text, or at its end. -/
def facing (cause : Cause) (rest : List Char) : Fault := within cause 1 rest

end Fault

/-- A line, counted from one, and the number of bytes since it began. -/
structure Position where
  line : Nat
  column : Nat
deriving DecidableEq, Repr

namespace Position

/-- The position after some bytes of a text that starts at a position. A line feed among them
begins a line. -/
def advance (p : Position) : Nat → List Char → Position
  | _, [] => p
  | bytes, c :: cs =>
      if bytes < c.utf8Size then ⟨p.line, p.column + bytes⟩
      else
        let q := if c = '\n' then ⟨p.line + 1, 0⟩ else ⟨p.line, p.column + c.utf8Size⟩
        advance q (bytes - c.utf8Size) cs

/-- The position after some bytes of a text. -/
def after (bytes : Nat) (cs : List Char) : Position := advance ⟨1, 0⟩ bytes cs

end Position

/-- Why a text is not JSON, and where. -/
structure ReadError where
  cause : Cause
  position : Position
deriving DecidableEq, Repr

namespace ReadError

/-- The error of a fault in a text. -/
def ofFault (cs : List Char) (f : Fault) : ReadError :=
  ⟨f.cause, .after (byteSize cs - f.unread) cs⟩

/-- A message with a position behind it. -/
def located (message : String) (p : Position) : String :=
  message ++ " at line " ++ Decimal.naturalText p.line ++ " column " ++
    Decimal.naturalText p.column

/-- The wording of the error. -/
def message (e : ReadError) : String := located e.cause.message e.position

end ReadError

end KeywordValues.Json
