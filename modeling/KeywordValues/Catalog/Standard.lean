import KeywordValues.Catalog.Basic

/-!
# The standard keywords

The keywords of JSON Schema, draft 2020-12, whose values are scalars or arrays of scalars.
-/

namespace KeywordValues.Catalog

/-- The standard names, grouped by type. The keyword `type` takes one name or several. -/
def standardNames : List (DataType × List String) := [
  (.scalar .string, ["$schema", "$id", "$anchor", "$dynamicAnchor", "$comment", "title",
    "description", "pattern", "format", "contentEncoding", "contentMediaType"]),
  (.array .string, ["type", "required"]),
  (.scalar .number, ["minimum", "maximum", "exclusiveMinimum", "exclusiveMaximum", "multipleOf"]),
  (.scalar .integer, ["minLength", "maxLength", "minItems", "maxItems", "minContains",
    "maxContains", "minProperties", "maxProperties"]),
  (.scalar .boolean, ["uniqueItems", "readOnly", "writeOnly", "deprecated"])]

/-- The standard keywords in the order of the groups. -/
def standardKeywords : List Keyword :=
  standardNames.flatMap fun g ↦ g.2.filterMap fun name ↦ Keyword.ofName? name g.1

/-- The catalog of the standard keywords. -/
def standard : Catalog := standardKeywords.foldl insert empty

end KeywordValues.Catalog
