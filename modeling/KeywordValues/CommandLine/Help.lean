import KeywordValues.CommandLine.Run

/-!
# What is said about arguments

A short help text, made of the names in the grammar, and one line for each argument error.
-/

namespace KeywordValues.CommandLine

/-- How an option is written. -/
def OptionSpec.usage (o : OptionSpec) : Option String :=
  o.long.map fun long ↦
    "  " ++ (match o.short with
      | some c => String.ofList ['-', c] ++ ", --"
      | none => "    --") ++ long ++
    match o.form with
    | .value (.choice texts) => " <" ++ String.intercalate "|" texts ++ ">"
    | .value .path => " <PATH>"
    | .value .text => " <TEXT>"
    | _ => ""

/-- The exit codes and what they say. -/
def exitCodes : List (Nat × String) := [
  (0, "success"),
  (ExitCode.permissionDenied, "input or catalog not readable (permission denied)"),
  (ExitCode.dataInvalid, "value, schema, or catalog rejected"),
  (ExitCode.unknownName, "unknown data type or keyword"),
  (ExitCode.noInput, "input or catalog not found"),
  (ExitCode.internal, "internal error")]

/-- The help text: the commands with their options, the options of all commands and the exit
codes. -/
def helpText : String :=
  let commands := (Named.choices : List (String × CommandName)).flatMap fun (name, command) ↦
    ("  " ++ name ++ (if command.level.positional.isSome then " <PATH>" else "")) ::
      (command.level.options.filter fun o ↦ !topLevel.options.contains o).filterMap fun o ↦
        o.usage.map ("  " ++ ·)
  Output.lines <|
    ["Usage: " ++ programName ++ " [OPTIONS] <COMMAND>", "", "Commands:"] ++ commands ++
    ["", "Options:"] ++ topLevel.options.filterMap OptionSpec.usage ++
    ["", "Exit codes:"] ++ exitCodes.map fun (code, text) ↦
      "  " ++ Decimal.naturalText code ++ "  " ++ text

/-- The wording of an argument error. -/
def UsageError.message : UsageError → String
  | .helpShown | .versionShown => ""
  | .nothingAsked | .missingCommand => "a command is needed"
  | .unknownCommand => "no such command"
  | .unknownArgument => "unexpected argument"
  | .invalidValue => "invalid or missing value of an argument"
  | .unwantedValue => "unexpected value of an argument"
  | .conflict => "an argument given twice, or arguments that exclude each other"
  | .missingArgument => "a required argument is not given"

end KeywordValues.CommandLine
