import KeywordValues.Keyword
import KeywordValues.NameMap

/-!
# Catalogs of keywords

A catalog maps names that are not blank to data types. A name keeps its type: registering it again
fails, and so does extending a catalog by another that shares a name with it. A failing operation
gives no catalog, so the one it started from is still there.
-/

namespace KeywordValues

/-- Why a catalog cannot be built or extended. -/
inductive CatalogError where
  | emptyName
  | duplicate (name : String)
  | definition (keyword : String) (cause : UnknownType)
  | notAnObject
  | invalid (e : Json.ReadError)
deriving DecidableEq, Repr

namespace CatalogError

/-- The wording of the error. -/
def message : CatalogError → String
  | .emptyName => "keyword name must not be empty"
  | .duplicate name => "keyword already registered: " ++ name
  | .definition keyword cause => "keyword " ++ keyword ++ ": " ++ cause.message
  | .notAnObject => "keyword catalog must be a JSON object"
  | .invalid e => "document is not valid JSON: " ++ e.message

end CatalogError

/-- The types of keywords, by name. -/
structure Catalog where
  types : NameMap DataType
  /-- No name is blank. -/
  named : ∀ e ∈ types.entries, Text.isBlankText e.1 = false

namespace Catalog

/-- The catalog without keywords. -/
def empty : Catalog := ⟨.empty, fun _ h ↦ nomatch h⟩

/-- The names in order. -/
def names (c : Catalog) : List String := c.types.names

/-- How many keywords there are. -/
def size (c : Catalog) : Nat := c.types.size

/-- Whether a name is taken. -/
def contains (c : Catalog) (name : String) : Bool := c.types.contains name

/-- The keyword of a name. -/
def get? (c : Catalog) (name : String) : Option Keyword :=
  match h : c.types.get? name with
  | none => none
  | some type => some ⟨name, type, c.named _ (NameMap.mem_of_get? h)⟩

/-- The keywords in order of their names. -/
def keywords (c : Catalog) : List Keyword :=
  c.types.entries.attach.map fun e ↦ ⟨e.1.1, e.1.2, c.named e.1 e.2⟩

/-- The data type of a name. -/
def typeOf (c : Catalog) (name : String) : Except MemberError DataType :=
  match c.get? name with
  | some k => .ok k.dataType
  | none => .error (.unknownKeyword name)

/-- The value that a node has by the type of a name. -/
def convert (c : Catalog) (name : String) (node : Node) : Except MemberError TypedValue :=
  match c.get? name with
  | some k => k.convert node
  | none => .error (.unknownKeyword name)

/-- Puts a keyword into its place, over one of the same name. -/
def insert (c : Catalog) (k : Keyword) : Catalog where
  types := c.types.insert k.name k.dataType
  named e he := by
    rcases NameMap.mem_insertInto he with rfl | he
    · exact k.named
    · exact c.named e he

/-- Adds a keyword whose name is free. -/
def register (c : Catalog) (k : Keyword) : Except CatalogError Catalog :=
  if c.contains k.name then .error (.duplicate k.name) else .ok (c.insert k)

/-- Adds keywords one after the other. -/
def registerAll (c : Catalog) (ks : List Keyword) : Except CatalogError Catalog :=
  ks.foldlM register c

/-- Adds the keywords of another catalog, if no name is taken. The least name that is taken is
reported. -/
def extend (c other : Catalog) : Except CatalogError Catalog :=
  match other.names.find? c.contains with
  | some name => .error (.duplicate name)
  | none => c.registerAll other.keywords

end Catalog

end KeywordValues
