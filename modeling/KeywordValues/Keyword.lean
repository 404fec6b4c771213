import KeywordValues.Registry

/-!
# Keywords

A keyword is a name that is not blank and the data type of its values. Errors about a single member
of a schema name the keyword.
-/

namespace KeywordValues

/-- A schema directive and the data type its value has to have. -/
structure Keyword where
  name : String
  dataType : DataType
  /-- Names of blanks only are refused. -/
  named : Text.isBlankText name = false

/-- Why a member of a schema has no typed value. -/
inductive MemberError where
  | unknownKeyword (name : String)
  | value (keyword : String) (cause : ValueError)
deriving DecidableEq, Repr

namespace MemberError

/-- The wording of the error. -/
def message : MemberError → String
  | .unknownKeyword name => "unknown keyword: " ++ name
  | .value keyword cause => "invalid value for keyword " ++ keyword ++ ": " ++ cause.message

end MemberError

namespace Keyword

/-- The keyword of a name, unless the name is blank. -/
def ofName? (name : String) (type : DataType) : Option Keyword :=
  if h : Text.isBlankText name = false then some ⟨name, type, h⟩ else none

/-- A keyword and its type, as a reader is shown them. -/
def display (k : Keyword) : String := k.name ++ ": " ++ k.dataType.name

/-- The value that a node given for the keyword has. -/
def convert (k : Keyword) (node : Node) : Except MemberError TypedValue :=
  match k.dataType.convert node with
  | .ok v => .ok v
  | .error e => .error (.value k.name (.mismatch e))

end Keyword

end KeywordValues
