import KeywordValues.Catalog.Document
import KeywordValues.Journal

/-!
# Loading a schema

The members of a schema object are taken in the order of their names. A member that the catalog
knows is given the type of its keyword, and one that it does not know is skipped or refused. A
failing member ends the loading, or is collected with the others that fail.
-/

namespace KeywordValues

/-- How a schema is loaded. -/
structure LoadOptions where
  /-- Whether a member outside the catalog fails. -/
  strict : Bool := false
  /-- Whether all failing members are looked at, and not only the first. -/
  collect : Bool := false
  /-- How many errors are kept when they are collected. -/
  maxReported : Nat := 8
deriving DecidableEq, Repr

/-- The typed values of a schema, and the names of the members outside the catalog. -/
structure LoadedSchema where
  values : NameMap TypedValue
  skipped : List String

namespace LoadedSchema

/-- The value of a keyword. -/
def get? (l : LoadedSchema) (name : String) : Option TypedValue := l.values.get? name

/-- The values with their names, in order of the names. -/
def toList (l : LoadedSchema) : List (String × TypedValue) := l.values.entries

/-- How many values there are. -/
def size (l : LoadedSchema) : Nat := l.values.size

/-- Whether there are no values. -/
def isEmpty (l : LoadedSchema) : Bool := l.values.isEmpty

end LoadedSchema

/-- Why a schema is not loaded. -/
inductive LoadError where
  | member (e : MemberError)
  | rejected (errors : List MemberError)
  | notAnObject
  | invalid (e : Json.ReadError)
deriving DecidableEq, Repr

namespace LoadError

/-- The wording of the error. -/
def message : LoadError → String
  | .member e => e.message
  | .rejected errors => "schema rejected: " ++ "; ".intercalate (errors.map MemberError.message)
  | .notAnObject => "schema must be a JSON object"
  | .invalid e => "document is not valid JSON: " ++ e.message

end LoadError

/-- How far a loading has come. -/
structure LoadProgress where
  values : NameMap TypedValue := .empty
  skipped : Array String := #[]
  errors : Array MemberError := #[]
  journal : Array Event := #[]

namespace LoadProgress

/-- Notes an event. -/
def note (p : LoadProgress) (e : Event) : LoadProgress := { p with journal := p.journal.push e }

/-- Passes over a member. -/
def skip (p : LoadProgress) (name : String) : LoadProgress :=
  { p with skipped := p.skipped.push name, journal := p.journal.push (.keywordSkipped name) }

/-- Keeps a value. -/
def keep (p : LoadProgress) (name : String) (v : TypedValue) : LoadProgress :=
  { p with values := p.values.insert name v }

/-- Collects an error, unless enough have been kept, and notes it in any case. -/
def reject (p : LoadProgress) (max : Nat) (name : String) (e : MemberError) : LoadProgress :=
  { p with
    errors := if p.errors.size < max then p.errors.push e else p.errors
    journal := p.journal.push (.keywordRejected name e) }

/-- The value of a member that the catalog knows, and what its conversion leaves in the journal. -/
def convert (p : LoadProgress) (k : Keyword) (j : Json) :
    LoadProgress × Except MemberError TypedValue :=
  match Node.ofJson j with
  | .error e => (p, .error (.value k.name (.unsupported e)))
  | .ok node =>
      (p.note (.ofConversion k.dataType (k.dataType.convert node)), k.convert node)

/-- Takes members one after the other. The error is that of the member that ended the loading. -/
def run (c : Catalog) (o : LoadOptions) (p : LoadProgress) :
    List (String × Json) → LoadProgress × Option MemberError
  | [] => (p, none)
  | (name, j) :: ms =>
      match c.get? name with
      | some k =>
          match p.convert k j with
          | (p, .ok v) => run c o (p.keep name v) ms
          | (p, .error e) =>
              if o.collect then run c o (p.reject o.maxReported name e) ms else (p, some e)
      | none =>
          if o.strict then
            if o.collect then
              run c o (p.reject o.maxReported name (.unknownKeyword name)) ms
            else (p, some (.unknownKeyword name))
          else run c o (p.skip name) ms

end LoadProgress

/-- The result of a loading and its journal. -/
structure LoadReport where
  result : Except LoadError LoadedSchema
  journal : List Event

namespace Catalog

/-- Loads the members of a schema object. -/
def loadFields (c : Catalog) (o : LoadOptions) (fields : NameMap Json) : LoadReport :=
  match LoadProgress.run c o {} fields.entries with
  | (p, some e) => ⟨.error (.member e), p.journal.toList⟩
  | (p, none) =>
      if p.errors.isEmpty then
        ⟨.ok ⟨p.values, p.skipped.toList⟩,
          p.journal.toList ++ [.membersLoaded p.values.size p.skipped.size]⟩
      else ⟨.error (.rejected p.errors.toList), p.journal.toList⟩

/-- Loads a schema. -/
def loadJson (c : Catalog) (o : LoadOptions) (schema : Json) : LoadReport :=
  match schema.fields? with
  | none => ⟨.error .notAnObject, []⟩
  | some fields => c.loadFields o fields

/-- Loads the text of a schema. -/
def loadText (c : Catalog) (o : LoadOptions) (text : String) : LoadReport :=
  match Json.read text with
  | .error e => ⟨.error (.invalid e), []⟩
  | .ok schema => c.loadJson o schema

end Catalog

end KeywordValues
