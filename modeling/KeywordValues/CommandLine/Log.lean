import KeywordValues.CommandLine.Run
import KeywordValues.Text.Literal

/-!
# Events as texts

An event has a level, the part of the program it comes from, a message and fields. It is written on
one line, as text or as JSON, if its level is grave enough. The part of the program is written at
the levels `debug` and `trace` only.
-/

namespace KeywordValues.CommandLine

/-- A value that an event mentions. -/
inductive FieldValue where
  /-- Written as it is. -/
  | shown (text : String)
  /-- Written as a literal, where the format is text. -/
  | quoted (text : String)
  | count (n : Nat)
deriving DecidableEq, Repr

/-- An event, ready to be written. -/
structure LogEntry where
  level : LogLevel
  target : String
  message : String
  fields : List (String × FieldValue)
deriving DecidableEq, Repr

namespace LogLevel

/-- The place among the levels, the gravest first. -/
def rank : LogLevel → Nat
  | .error => 0
  | .warn => 1
  | .info => 2
  | .debug => 3
  | .trace => 4

/-- The name in a log. -/
def label : LogLevel → String
  | .error => "ERROR"
  | .warn => "WARN"
  | .info => "INFO"
  | .debug => "DEBUG"
  | .trace => "TRACE"

/-- Whether the parts of the program are written at a level. -/
def showsTargets (l : LogLevel) : Bool := LogLevel.debug.rank ≤ l.rank

end LogLevel

/-- The index of an item, or that there is none. -/
def indexText : Option Nat → String
  | some i => "Some(" ++ Decimal.naturalText i ++ ")"
  | none => "None"

namespace LogEntry

/-- A data type as a field. -/
def typeField (t : DataType) : String × FieldValue := ("data_type", .shown t.name)

/-- What is written of an event. -/
def ofEvent : Event → LogEntry
  | .scalarConverted t =>
      ⟨.trace, "schematype_value::convert", "converted scalar", [typeField t]⟩
  | .arrayConverted t n =>
      ⟨.trace, "schematype_value::convert", "converted array", [typeField t, ("len", .count n)]⟩
  | .mismatched e =>
      ⟨.debug, "schematype_value::convert", "type mismatch",
        [typeField e.expected, ("found", .quoted e.found.name),
          ("index", .shown (indexText e.index))]⟩
  | .registryBuilt n =>
      ⟨.debug, "schematype_value::registry", "data type registry built", [("bindings", .count n)]⟩
  | .keywordRegistered name t =>
      ⟨.debug, "schematype_keyword::catalog", "registered keyword",
        [("keyword", .quoted name), typeField t]⟩
  | .catalogRead path n =>
      ⟨.debug, "schematype_keyword::catalog", "loaded keyword catalog",
        [("path", .shown path), ("keywords", .count n)]⟩
  | .keywordSkipped name =>
      ⟨.debug, "schematype_keyword::loader", "skipping keyword outside catalog",
        [("keyword", .shown name)]⟩
  | .keywordRejected name e =>
      ⟨.warn, "schematype_keyword::loader", "keyword rejected",
        [("keyword", .shown name), ("error", .shown e.message)]⟩
  | .membersLoaded n skipped =>
      ⟨.debug, "schematype_keyword::loader", "schema keywords loaded",
        [("keywords", .count n), ("skipped", .count skipped)]⟩
  | .schemaLoaded path n skipped =>
      ⟨.info, "schematype::cmd::load", "schema loaded",
        [("path", .shown path), ("keywords", .count n), ("skipped", .count skipped)]⟩
  | .catalogResolved n =>
      ⟨.debug, "schematype::cmd::keywords", "resolved keyword catalog", [("keywords", .count n)]⟩
  | .valueConverted t n =>
      ⟨.debug, "schematype::cmd::convert", "converted value", [typeField t, ("len", .count n)]⟩
  | .commandFailed code =>
      ⟨.debug, "schematype", "command failed", [("code", .count code)]⟩

/-- A field in a line of text. -/
def fieldText : String × FieldValue → String
  | (name, .shown text) => " " ++ name ++ "=" ++ text
  | (name, .quoted text) => " " ++ name ++ "=" ++ Text.literal text
  | (name, .count n) => " " ++ name ++ "=" ++ Decimal.naturalText n

/-- A field in JSON. -/
def fieldJson : String × FieldValue → String × Json
  | (name, .shown text) | (name, .quoted text) => (name, .string text)
  | (name, .count n) => (name, Output.countJson n)

/-- The label of a level, filled up to five characters from the left. -/
def paddedLabel (l : LogLevel) : String :=
  String.ofList (List.replicate (5 - l.label.length) ' ') ++ l.label

/-- The line of an event. -/
def render (f : LogFormat) (targets : Bool) (e : LogEntry) : String :=
  match f with
  | .text =>
      paddedLabel e.level ++ " " ++ (if targets then e.target ++ ": " else "") ++ e.message ++
        String.join (e.fields.map fieldText)
  | .json =>
      (Json.object ([("level", .string e.level.label),
        ("fields", .object (("message", .string e.message) :: e.fields.map fieldJson))] ++
        if targets then [("target", .string e.target)] else [])).print

end LogEntry

namespace Invocation

/-- The lines that the events of a run make on the standard error. -/
def log (i : Invocation) (journal : List Event) : List String :=
  ((journal.map LogEntry.ofEvent).filter fun e ↦ e.level.rank ≤ i.logLevel.rank).map
    (LogEntry.render i.logFormat i.logLevel.showsTargets)

/-- What a run writes to the standard error: its events, and its failure at the end. -/
def errorLines (i : Invocation) (r : Report) : List String :=
  i.log r.journal ++ match r.result with
    | .ok _ => []
    | .error f => ["error: " ++ f.message]

end Invocation

end KeywordValues.CommandLine
