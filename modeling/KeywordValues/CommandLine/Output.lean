import KeywordValues.Load
import KeywordValues.TypeText
import KeywordValues.CommandLine.Command
import KeywordValues.CommandLine.Table

/-!
# Results as texts

The four formats in which types, keywords, values and loaded schemas are written. Every text ends in
a line feed, except that there may be no line at all.
-/

namespace KeywordValues.CommandLine.Output

/-- A text on lines of its own. -/
def line (s : String) : String := s ++ "\n"

/-- Texts on lines of their own. -/
def lines (ss : List String) : String := String.join (ss.map line)

/-- The number of things, as JSON. -/
def countJson (n : Nat) : Json :=
  match Decimal.Word.ofInt? n with
  | some w => .whole w
  | none => .double (Float.ofNat n)

/-- The name of a document format. -/
def schemaId (name : String) : String × Json :=
  ("schema_id", .string
    ("https://schemas.3leaps.dev/schematype/cli/v1/" ++ name ++ ".schema.json"))

/-- A text filled up with spaces to a number of characters. -/
def padded (n : Nat) (s : String) : String :=
  s ++ String.ofList (List.replicate (n - s.length) ' ')

/-! ## Values -/

/-- A value as a JSON document. -/
def valueJson (v : TypedValue) : Json := .object [
  schemaId "typed-value", ("data_type", v.dataType.toJson), ("kind", .string v.dataType.kindText),
  ("len", countJson v.size), ("value", v.toJson), ("display", .string v.display)]

/-- A value. -/
def value (f : OutputFormat) (v : TypedValue) : String :=
  let (type, kind, len) := (v.dataType.name, v.dataType.kindText, Decimal.naturalText v.size)
  line (match f with
    | .json => (valueJson v).print
    | .table => Table.render ["DATA TYPE", "KIND", "LEN", "VALUE"] [[type, kind, len, v.display]]
    | .pretty =>
        "data_type=" ++ type ++ " kind=" ++ kind ++ " len=" ++ len ++ " value=" ++ v.display
    | .raw => v.display)

/-! ## Loaded schemas -/

/-- The value of a keyword as JSON. -/
def keywordJson (e : String × TypedValue) : Json := .object [
  ("keyword", .string e.1), ("data_type", e.2.dataType.toJson), ("value", e.2.toJson),
  ("display", .string e.2.display)]

/-- A loaded schema as a JSON document. -/
def schemaJson (l : LoadedSchema) : Json := .object [
  schemaId "loaded-schema", ("keywords", .array (l.toList.map keywordJson)),
  ("skipped", .array (l.skipped.map .string))]

/-- A loaded schema. -/
def schema (f : OutputFormat) (l : LoadedSchema) : String :=
  match f with
  | .json => line (schemaJson l).print
  | .table =>
      line (Table.render ["KEYWORD", "DATA TYPE", "VALUE"]
        (l.toList.map fun (name, v) ↦ [name, v.dataType.name, v.display])) ++
      if l.skipped.isEmpty then "" else line ("skipped: " ++ ", ".intercalate l.skipped)
  | .pretty =>
      lines (l.toList.map fun (name, v) ↦ name ++ " (" ++ v.dataType.name ++ ") = " ++ v.display) ++
      lines (l.skipped.map fun name ↦ name ++ " (skipped)")
  | .raw => lines (l.toList.map fun (name, v) ↦ name ++ "\t" ++ v.display)

/-! ## Names bound to types -/

/-- A name and its type as JSON. -/
def bindingJson (b : String × DataType) : Json := .object [
  ("name", .string b.1), ("data_type", b.2.toJson), ("kind", .string b.2.kindText)]

/-- Names and their types as a JSON document. -/
def bindingsJson (id : String) (bs : List (String × DataType)) : Json := .object [
  schemaId id, ("bindings", .array (bs.map bindingJson))]

/-- Names and their types. -/
def bindings (id nameHeader : String) (f : OutputFormat) (bs : List (String × DataType)) : String :=
  match f with
  | .json => line (bindingsJson id bs).print
  | .table =>
      line (Table.render [nameHeader, "DATA TYPE", "KIND"]
        (bs.map fun (name, t) ↦ [name, t.name, t.kindText]))
  | .pretty =>
      lines (bs.map fun (name, t) ↦
        padded 20 name ++ " " ++ padded 14 t.name ++ " " ++ t.kindText)
  | .raw => lines (bs.map fun (name, t) ↦ name ++ "\t" ++ t.name)

/-- All data types. -/
def dataTypes (f : OutputFormat) : String :=
  bindings "data-types" "NAME" f (DataType.all.map fun t ↦ (t.name, t))

/-- The keywords of a catalog. -/
def keywords (f : OutputFormat) (c : Catalog) : String :=
  bindings "keywords" "KEYWORD" f c.types.entries

end KeywordValues.CommandLine.Output
