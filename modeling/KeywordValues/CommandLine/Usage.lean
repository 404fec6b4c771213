/-!
# Argument errors

Why arguments do not make an invocation. Asking for help or for the version is among the reasons,
as nothing is run then.
-/

namespace KeywordValues.CommandLine

/-- Why arguments do not make an invocation. -/
inductive UsageError where
  | helpShown
  | versionShown
  /-- Nothing was asked for, so the help is shown. -/
  | nothingAsked
  | missingCommand
  | unknownCommand
  | unknownArgument
  /-- A text that is not among the choices of an option, or none where one is needed. -/
  | invalidValue
  /-- A text for an option that takes none. -/
  | unwantedValue
  /-- An option given twice, or next to one that excludes it. -/
  | conflict
  | missingArgument
deriving DecidableEq, Repr

/-- The exit code of an argument error. -/
def UsageError.exitCode : UsageError → Nat
  | .helpShown | .versionShown => 0
  | _ => 2

end KeywordValues.CommandLine
