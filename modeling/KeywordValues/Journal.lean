import KeywordValues.Catalog.Basic

/-!
# What is noted while values are loaded

Events in the order in which they happen. How they are written, and which of them, is up to the
reader of a journal.
-/

namespace KeywordValues

/-- Something that happened on the way to a result. -/
inductive Event where
  | scalarConverted (type : DataType)
  | arrayConverted (type : DataType) (size : Nat)
  | mismatched (e : Mismatch)
  | registryBuilt (bindings : Nat)
  | keywordRegistered (name : String) (type : DataType)
  | catalogRead (path : String) (keywords : Nat)
  | keywordSkipped (name : String)
  | keywordRejected (name : String) (e : MemberError)
  | membersLoaded (keywords skipped : Nat)
  | schemaLoaded (path : String) (keywords skipped : Nat)
  | catalogResolved (keywords : Nat)
  | valueConverted (type : DataType) (size : Nat)
  | commandFailed (code : Nat)
deriving DecidableEq, Repr

namespace Event

/-- What a conversion by a type leaves in the journal. -/
def ofConversion (type : DataType) : Except Mismatch TypedValue → Event
  | .ok v => if type.isArray then .arrayConverted type v.size else .scalarConverted type
  | .error e => .mismatched e

/-- What a keyword leaves in the journal when it is registered. -/
def ofKeyword (k : Keyword) : Event := .keywordRegistered k.name k.dataType

/-- Whether an event is a conversion's. -/
def isConversion : Event → Bool
  | .scalarConverted _ | .arrayConverted .. | .mismatched _ => true
  | _ => false

/-- What the first conversion leaves before its own event: the registry is built, for which every
standard binding converts its sample. -/
def registrySetup : List Event :=
  Registry.standardBindings.map (fun b ↦ ofConversion b.type (b.routine.run b.sample)) ++
    [.registryBuilt Registry.standardBindings.length]

/-- A journal in which the registry is built right before the first conversion. -/
def withRegistry : List Event → List Event
  | [] => []
  | e :: es => if e.isConversion then registrySetup ++ e :: es else e :: withRegistry es

end Event

end KeywordValues
