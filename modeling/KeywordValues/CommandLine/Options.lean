import KeywordValues.CommandLine.Usage

/-!
# Reading arguments against a grammar of options

A `Level` lists the options, the positional argument and the commands that may stand at one level of
a command line. `Level.scan` goes through arguments from the left up to a command. What was given
for an option is accepted once the next argument shows that it is complete, so that of several
errors the first that becomes clear is reported. Options that are not given are looked up in the
environment.
-/

namespace KeywordValues.CommandLine

/-- The options of all levels. -/
inductive OptionName where
  | help
  | version
  | format
  | logFormat
  | logLevel
  | catalog
  | only
  | type
  | json
  | file
  | path
  | strict
  | allErrors
  | extended
deriving DecidableEq, Repr

/-- What has to be given for an option that takes a text. -/
inductive ValueForm where
  | text
  /-- A text that is not empty. -/
  | path
  | choice (texts : List String)
deriving DecidableEq, Repr

/-- Whether a text can be given. -/
def ValueForm.admits : ValueForm → String → Bool
  | .text, _ => true
  | .path, s => s ≠ ""
  | .choice texts, s => texts.contains s

/-- What an option does. -/
inductive OptionForm where
  | showHelp
  | showVersion
  | switch
  | value (form : ValueForm)
deriving DecidableEq, Repr

/-- An option, or a positional argument, which has neither a long nor a short form. -/
structure OptionSpec where
  name : OptionName
  form : OptionForm
  long : Option String := none
  short : Option Char := none
  /-- The variable of the environment that stands in for the option. -/
  variableName : Option String := none
deriving DecidableEq, Repr

/-- When an option has to be given. -/
inductive Requirement where
  | always (name : OptionName)
  /-- The first unless the second is given. -/
  | oneOf (name other : OptionName)
  /-- The second if the first is given. -/
  | implied (name needed : OptionName)
deriving DecidableEq, Repr

/-- What may stand at one level of a command line. -/
structure Level where
  options : List OptionSpec
  positional : Option OptionSpec := none
  commands : List String := []
  exclusive : List (OptionName × OptionName) := []
  requirements : List Requirement := []
deriving DecidableEq, Repr

/-- Where a text for an option comes from. -/
inductive Origin where
  | environment
  | arguments
deriving DecidableEq, Repr

/-- A text for an option. -/
structure Given where
  name : OptionName
  text : String
  origin : Origin
deriving DecidableEq, Repr

/-- What has been begun and not yet accepted. -/
inductive Pending where
  | nothing
  /-- An option that waits for its text. -/
  | awaiting (option : OptionSpec)
  | complete (option : OptionSpec) (text : String)
deriving DecidableEq, Repr

/-- How far the arguments of a level have been read. -/
structure Reading where
  given : List Given := []
  pending : Pending := .nothing
  /-- Whether only positional arguments follow. -/
  trailing : Bool := false
  /-- Whether the positional argument has been read. -/
  placed : Bool := false
deriving DecidableEq, Repr

/-- The variables of the environment. -/
abbrev Environment := List (String × String)

namespace Reading

/-- Whether something was given for an option. -/
def has (r : Reading) (name : OptionName) : Bool := r.given.any (·.name = name)

/-- What was given for an option. -/
def find? (r : Reading) (name : OptionName) : Option Given := r.given.find? (·.name = name)

/-- The text given for an option. -/
def text? (r : Reading) (name : OptionName) : Option String := (r.find? name).map (·.text)

/-- Accepts what is given for an option. -/
def accept (r : Reading) (o : OptionSpec) (text : String) (origin : Origin) :
    Except UsageError Reading :=
  if r.has o.name then .error .conflict
  else
    let taken : Reading := { r with given := r.given ++ [⟨o.name, text, origin⟩] }
    match o.form with
    | .value form => if form.admits text then .ok taken else .error .invalidValue
    | _ => .ok taken

/-- Accepts what has been begun. -/
def settle (r : Reading) : Except UsageError Reading :=
  match r.pending with
  | .nothing => .ok r
  | .awaiting _ => .error .invalidValue
  | .complete o text => { r with pending := .nothing }.accept o text .arguments

/-- Takes an option that needs no text. -/
def takeSwitch (r : Reading) (o : OptionSpec) : Except UsageError Reading :=
  match r.settle with
  | .error e => .error e
  | .ok r =>
      match o.form with
      | .showHelp => .error .helpShown
      | .showVersion => .error .versionShown
      | _ => r.accept o "" .arguments

/-- Takes an option with a text that stands in the same argument, or in the next one. -/
def takeValue (r : Reading) (o : OptionSpec) (attached : Option String) :
    Except UsageError Reading :=
  match r.settle with
  | .error e => .error e
  | .ok r =>
      match attached with
      | some text => r.accept o text .arguments
      | none => .ok { r with pending := .awaiting o }

/-- Whether an option takes a text. -/
def takesText (o : OptionSpec) : Bool :=
  match o.form with
  | .value _ => true
  | _ => false

end Reading

namespace Level

/-- Takes an option in its long form, behind the two dashes. -/
def takeLong (l : Level) (r : Reading) (cs : List Char) : Except UsageError Reading :=
  let name := String.ofList (cs.takeWhile (· ≠ '='))
  let attached := match cs.dropWhile (· ≠ '=') with
    | _ :: text => some (String.ofList text)
    | [] => none
  match l.options.find? (·.long = some name) with
  | none => .error .unknownArgument
  | some o =>
      if Reading.takesText o then r.takeValue o attached
      else if attached.isSome then .error .unwantedValue
      else r.takeSwitch o

/-- Takes options in their short forms, behind the dash. The rest behind one that takes a text is
its text, with an equals sign in between or without. -/
def takeShort (l : Level) (r : Reading) : List Char → Except UsageError Reading
  | [] => .ok r
  | c :: cs =>
      match l.options.find? (·.short = some c) with
      | none => .error .unknownArgument
      | some o =>
          if Reading.takesText o then
            match cs with
            | [] => r.takeValue o none
            | '=' :: text => r.takeValue o (some (String.ofList text))
            | text => r.takeValue o (some (String.ofList text))
          else match r.takeSwitch o with
            | .error e => .error e
            | .ok r => takeShort l r cs

/-- Takes an argument that stands for itself. -/
def takePositional (l : Level) (r : Reading) (arg : String) : Except UsageError Reading :=
  match l.positional, r.placed with
  | some o, false =>
      match r.settle with
      | .error e => .error e
      | .ok r => .ok { r with pending := .complete o arg, placed := true }
  | _, _ =>
      if l.commands.isEmpty || r.trailing && l.commands.contains arg then .error .unknownArgument
      else .error .unknownCommand

/-- Takes an argument that is no command. -/
def take (l : Level) (r : Reading) (arg : String) : Except UsageError Reading :=
  if r.trailing then l.takePositional r arg
  else match arg.toList with
    | ['-', '-'] => .ok { r with trailing := true }
    | '-' :: '-' :: cs => l.takeLong r cs
    | '-' :: c :: cs => l.takeShort r (c :: cs)
    | _ =>
        match r.pending with
        | .awaiting o => .ok { r with pending := .complete o arg }
        | _ => l.takePositional r arg

/-- Whether an argument is read as a command. -/
def isCommand (l : Level) (r : Reading) (arg : String) : Bool :=
  let awaiting := match r.pending with
    | .awaiting _ => true
    | _ => false
  !r.trailing && !awaiting && l.commands.contains arg

/-- Reads arguments up to a command, which is given back with those behind it. -/
def scan (l : Level) (r : Reading) :
    List String → Except UsageError (Reading × Option (String × List String))
  | [] => .ok (r, none)
  | arg :: args =>
      if l.isCommand r arg then .ok (r, some (arg, args))
      else match l.take r arg with
        | .error e => .error e
        | .ok r => scan l r args

/-- Fills in an option from the environment, unless it was given. -/
def fillIn (env : Environment) (r : Reading) (o : OptionSpec) : Except UsageError Reading :=
  match o.variableName.bind fun name ↦ env.lookup name with
  | some text => if r.has o.name then .ok r else r.accept o text .environment
  | none => .ok r

/-- Whether a requirement is met. -/
def meets (r : Reading) : Requirement → Bool
  | .always name => r.has name
  | .oneOf name other => r.has name || r.has other
  | .implied name needed => !r.has name || r.has needed

/-- Ends the reading of a level: accepts what has been begun and fills in the environment. -/
def finish (l : Level) (env : Environment) (r : Reading) : Except UsageError Reading :=
  match r.settle with
  | .error e => .error e
  | .ok r => l.options.foldlM (fillIn env) r

/-- Looks at options together. -/
def validate (l : Level) (r : Reading) : Except UsageError Unit :=
  if l.exclusive.any fun p ↦ r.has p.1 && r.has p.2 then .error .conflict
  else if l.requirements.all (meets r) then .ok ()
  else .error .missingArgument

end Level

end KeywordValues.CommandLine
