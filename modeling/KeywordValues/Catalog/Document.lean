import KeywordValues.Catalog.Basic
import KeywordValues.Json.Reader

/-!
# Catalogs in JSON

A catalog document is an object that maps keyword names to the names of data types. A document that
is at fault anywhere adds nothing.
-/

namespace KeywordValues.Catalog

/-- The text that a member of a document gives as the name of a type: that of a string, and the
compact text of any other value. -/
def typeText : Json → String
  | .string s => s
  | j => j.print

/-- The keyword that a member of a document adds to a catalog. The type is looked at first, then the
name, then whether the name is taken. -/
def define (c : Catalog) (m : String × Json) : Except CatalogError Keyword :=
  match DataType.ofName (typeText m.2) with
  | .error e => .error (.definition m.1 e)
  | .ok type =>
      match Keyword.ofName? m.1 type with
      | none => .error .emptyName
      | some k => if c.contains k.name then .error (.duplicate k.name) else .ok k

/-- Adds the keywords that an object defines. All of them are looked at before the first is
added. -/
def extendByFields (c : Catalog) (fields : NameMap Json) : Except CatalogError Catalog :=
  match fields.entries.mapM c.define with
  | .error e => .error e
  | .ok ks => c.registerAll ks

/-- Adds the keywords of a JSON value. -/
def extendByJson (c : Catalog) (j : Json) : Except CatalogError Catalog :=
  match j.fields? with
  | none => .error .notAnObject
  | some fields => c.extendByFields fields

/-- Adds the keywords of a document. -/
def extendByText (c : Catalog) (text : String) : Except CatalogError Catalog :=
  match Json.read text with
  | .error e => .error (.invalid e)
  | .ok j => c.extendByJson j

/-- The catalog of a document. -/
def ofText (text : String) : Except CatalogError Catalog := empty.extendByText text

end KeywordValues.Catalog
