import KeywordValues.CommandLine.Options

/-!
# The commands of the program

The grammar of the command line, and `Invocation.ofArguments`, which turns arguments and environment
into what is to be run.
-/

namespace KeywordValues.CommandLine

/-- How results are written. -/
inductive OutputFormat where
  | json
  | table
  | pretty
  | raw
deriving DecidableEq, Repr

/-- How events are written. -/
inductive LogFormat where
  | text
  | json
deriving DecidableEq, Repr

/-- How grave an event is, the gravest first. -/
inductive LogLevel where
  | error
  | warn
  | info
  | debug
  | trace
deriving DecidableEq, Repr

/-- Names for the values of a type, as they are given in arguments. -/
class Named (α : Type) where
  choices : List (String × α)

namespace Named

/-- The names of a type's values. -/
def names (α : Type) [Named α] : List String := (choices : List (String × α)).map (·.1)

/-- The value of a name. -/
def ofName? {α : Type} [Named α] (name : String) : Option α := choices.lookup name

end Named

instance : Named OutputFormat :=
  ⟨[("json", .json), ("table", .table), ("pretty", .pretty), ("raw", .raw)]⟩

instance : Named LogFormat := ⟨[("text", .text), ("json", .json)]⟩

instance : Named LogLevel :=
  ⟨[("error", .error), ("warn", .warn), ("info", .info), ("debug", .debug), ("trace", .trace)]⟩

/-- The names of the commands. -/
inductive CommandName where
  | types
  | keywords
  | convert
  | load
  | version
deriving DecidableEq, Repr

instance : Named CommandName :=
  ⟨[("types", .types), ("keywords", .keywords), ("convert", .convert), ("load", .load),
    ("version", .version)]⟩

/-- The command that shows the help. -/
def helpCommand : String := "help"

/-! ## The grammar -/

/-- Shows the help of a level. -/
def helpOption : OptionSpec :=
  { name := .help, form := .showHelp, long := some "help", short := some 'h' }

/-- The options that may stand at every level. -/
def globalOptions : List OptionSpec := [
  { name := .format, form := .value (.choice (Named.names OutputFormat)), long := some "format" },
  { name := .logFormat, form := .value (.choice (Named.names LogFormat)),
    long := some "log-format" },
  { name := .logLevel, form := .value (.choice (Named.names LogLevel)), long := some "log-level",
    variableName := some "SCHEMATYPE_LOG_LEVEL" }]

/-- A switch with a long form. -/
def switch (name : OptionName) (long : String) : OptionSpec :=
  { name, form := .switch, long := some long }

/-- An option for the path of a catalog file. -/
def catalogOption : OptionSpec :=
  { name := .catalog, form := .value .path, long := some "catalog",
    variableName := some "SCHEMATYPE_CATALOG" }

/-- The first level: options for all commands, then a command. -/
def topLevel : Level where
  options := helpOption ::
    { name := .version, form := .showVersion, long := some "version", short := some 'V' } ::
    globalOptions
  commands := Named.names CommandName ++ [helpCommand]

/-- The level behind a command. -/
def CommandName.level : CommandName → Level
  | .types => { options := helpOption :: globalOptions }
  | .keywords =>
      { options := catalogOption :: switch .only "only" :: helpOption :: globalOptions
        requirements := [.implied .only .catalog] }
  | .convert =>
      { options :=
          { name := .type, form := .value .text, long := some "type", short := some 't' } ::
          { name := .json, form := .value .text, long := some "json" } ::
          { name := .file, form := .value .path, long := some "file" } ::
          helpOption :: globalOptions
        exclusive := [(.json, .file)]
        requirements := [.always .type, .oneOf .json .file] }
  | .load =>
      { options :=
          catalogOption :: switch .only "only" :: switch .strict "strict" ::
          switch .allErrors "all-errors" :: helpOption :: globalOptions
        positional := some { name := .path, form := .value .path }
        requirements := [.always .path, .implied .only .catalog] }
  | .version => { options := switch .extended "extended" :: helpOption :: globalOptions }

/-! ## Invocations -/

/-- Where a JSON value comes from. -/
inductive Source where
  | text (json : String)
  | file (path : String)
deriving DecidableEq, Repr

/-- What is to be run. -/
inductive Command where
  | types
  | keywords (catalog : Option String) (only : Bool)
  | convert (type : String) (source : Source)
  | load (path : String) (catalog : Option String) (only strict allErrors : Bool)
  | version (extended : Bool)
deriving DecidableEq, Repr

/-- The paths of the files that a command looks at. -/
def Command.paths : Command → List String
  | .types | .version _ => []
  | .keywords catalog _ => catalog.toList
  | .convert _ (.text _) => []
  | .convert _ (.file path) => [path]
  | .load path catalog .. => catalog.toList ++ [path]

/-- A command and how its results and its events are written. There is no format where none was
asked for. -/
structure Invocation where
  command : Command
  format : Option OutputFormat
  logFormat : LogFormat
  logLevel : LogLevel
deriving DecidableEq, Repr

/-- What was read before a command and behind it. -/
structure Readings where
  top : Reading
  inner : Reading

namespace Readings

/-- The text of an option that may stand at both levels. The one behind the command counts, unless
it comes from the environment and the other does not. -/
def text? (r : Readings) (name : OptionName) : Option String :=
  match r.top.find? name, r.inner.find? name with
  | some t, some i =>
      some (if t.origin = .arguments ∧ i.origin = .environment then t.text else i.text)
  | some t, none => some t.text
  | none, i => i.map (·.text)

/-- The choice made for an option that may stand at both levels. -/
def choice? {α : Type} [Named α] (r : Readings) (name : OptionName) : Option α :=
  (r.text? name).bind Named.ofName?

/-- The command that was read. -/
def command (r : Readings) (name : CommandName) : Command :=
  let text (o : OptionName) : String := (r.inner.text? o).getD ""
  match name with
  | .types => .types
  | .keywords => .keywords (r.inner.text? .catalog) (r.inner.has .only)
  | .convert =>
      .convert (text .type) (match r.inner.text? .json with
        | some json => .text json
        | none => .file (text .file))
  | .load =>
      .load (text .path) (r.inner.text? .catalog) (r.inner.has .only) (r.inner.has .strict)
        (r.inner.has .allErrors)
  | .version => .version (r.inner.has .extended)

/-- The invocation that was read. -/
def invocation (r : Readings) (name : CommandName) : Invocation where
  command := r.command name
  format := r.choice? .format
  logFormat := (r.choice? .logFormat).getD .text
  logLevel := (r.choice? .logLevel).getD .info

end Readings

/-- What the help command answers to the arguments behind it, the names of the commands whose help
is asked for. Commands have no commands of their own. -/
def helpAnswer : List String → UsageError
  | [] => .helpShown
  | [name] => if topLevel.commands.contains name then .helpShown else .unknownCommand
  | _ => .unknownCommand

namespace Invocation

/-- Reads the arguments behind a command, and what is wrong with them. -/
def readInner (name : CommandName) (env : Environment) (args : List String) :
    Except UsageError Reading := do
  let l := name.level
  let (r, _) ← l.scan {} args
  let r ← l.finish env r
  l.validate r
  return r

/-- What arguments and environment ask for. The arguments behind the command are looked at before
what is wrong with those in front of it. -/
def ofArguments (env : Environment) (args : List String) : Except UsageError Invocation := do
  let (r, command) ← topLevel.scan {} args
  match command with
  | none =>
      let r ← topLevel.finish env r
      .error (if r.given.isEmpty then .nothingAsked else .missingCommand)
  | some (name, rest) =>
      match (Named.ofName? name : Option CommandName) with
      | none => .error (helpAnswer rest)
      | some name =>
          let inner ← readInner name env rest
          let top ← topLevel.finish env r
          return Readings.invocation ⟨top, inner⟩ name

end Invocation

end KeywordValues.CommandLine
