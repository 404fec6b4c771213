import KeywordValues.DataType
import KeywordValues.Json.Printer
import KeywordValues.Json.Reader

/-!
# Data types in JSON

A data type is written as the string of its name, and read from a string by name. Where a text holds
another value, the error names that value, and stands before it if it is an array or an object and
behind it otherwise.
-/

namespace KeywordValues

/-- The positions that a message may end in: the text before the position, the line and the
column. -/
def Json.ReadError.splitLocated (message : List Char) : Option (List Char × Nat × Nat) :=
  let value (ds : List Char) : Option Nat :=
    let n := ds.foldr (fun d n ↦ n * 10 + Decimal.digitValue d) 0
    if ds.isEmpty || UInt64.size ≤ n then none else some n
  let back := message.reverse
  let column := back.takeWhile Decimal.isDigit
  let back := back.drop column.length
  let between := " column ".toList.reverse
  let lead := " at line ".toList.reverse
  if between.isPrefixOf back then
    let back := back.drop between.length
    let line := back.takeWhile Decimal.isDigit
    let back := back.drop line.length
    if lead.isPrefixOf back then
      match value line, value column with
      | some l, some c => some ((back.drop lead.length).reverse, l, c)
      | _, _ => none
    else none
  else none

/-- A message as a reader of JSON passes it on. One that ends in a position is taken to be located
there: the position is written without leading zeros, and left out where the line is zero. -/
def Json.ReadError.passedOn (message : String) : String :=
  match splitLocated message.toList with
  | none => message
  | some (lead, line, column) =>
      if line = 0 then String.ofList lead else located (String.ofList lead) ⟨line, column⟩

/-- Why a text is not the JSON form of a data type. -/
inductive TypeTextError where
  | invalid (e : Json.ReadError)
  | notString (found : Json) (position : Json.Position)
  | unknown (e : UnknownType)

namespace TypeTextError

/-- The words for a value that is not a string. -/
def foundText : Json → String
  | .null => "null"
  | .bool b => "boolean `" ++ (if b then "true" else "false") ++ "`"
  | .whole n => "integer `" ++ Decimal.integerText n.val ++ "`"
  | .double x => "floating point `" ++ String.ofList (Decimal.Layout.json.render x) ++ "`"
  | .string _ => "string"
  | .array _ => "sequence"
  | .object _ => "map"

/-- The wording of the error. -/
def message : TypeTextError → String
  | .invalid e => e.message
  | .notString found p =>
      Json.ReadError.located ("invalid type: " ++ foundText found ++ ", expected a string") p
  | .unknown e => Json.ReadError.passedOn e.message

end TypeTextError

namespace DataType

open Json (Fault ReadError byteSize)

/-- The JSON form of a data type. -/
def toJson (t : DataType) : Json := .string t.name

/-- The string at the front of a text, or the value there instead, with the text behind what was
read of it. -/
def readString (s : List Char) : Except Fault (Json × List Char) :=
  match Json.Reader.skip s with
  | [] => .error ⟨.eofValue, 0⟩
  | c :: r =>
      if c = '[' then .ok (.array [], c :: r)
      else if c = '{' then .ok (.object [], c :: r)
      else match Json.Reader.bare none (c :: r) with
        | .error e => .error e
        | .ok j => .ok (j.value, j.rest)

/-- The data type that a JSON text holds. -/
def ofJsonText (text : String) : Except TypeTextError DataType :=
  let cs := text.toList
  let fault (f : Fault) : TypeTextError := .invalid (.ofFault cs f)
  match readString cs with
  | .error f => .error (fault f)
  | .ok (.string name, rest) =>
      match ofName name with
      | .error e => .error (.unknown e)
      | .ok t =>
          match Json.Reader.skip rest with
          | [] => .ok t
          | r => .error (fault (.facing .trailingCharacters r))
  | .ok (found, rest) =>
      .error (.notString found (.after (byteSize cs - byteSize rest) cs))

end DataType

end KeywordValues
