import KeywordValues.Catalog.Standard
import KeywordValues.CommandLine.Output
import KeywordValues.Files.Document

/-!
# Running a command

A command reads files, and ends in a text or in a failure with an exit code. What it does on the way
is in its journal. A command that fails writes no result.
-/

namespace KeywordValues.CommandLine

/-! ## Exit codes -/

namespace ExitCode

/-- A file is not readable. -/
def permissionDenied : Nat := 50

/-- A value, a schema or a catalog is rejected. -/
def dataInvalid : Nat := 60

/-- A data type or a keyword is not known. -/
def unknownName : Nat := 64

/-- A file is not there. -/
def noInput : Nat := 66

/-- Anything else. -/
def internal : Nat := 125

end ExitCode

/-- The exit code of a fault of the operating system. -/
def faultCode : FileFault → Nat
  | .notFound => ExitCode.noInput
  | .permissionDenied | .notPermitted => ExitCode.permissionDenied
  | .notUtf8 => ExitCode.dataInvalid
  | _ => ExitCode.internal

/-- The exit code of a document that is not read. -/
def documentCode : DocumentError → Nat
  | .io _ fault => faultCode fault
  | .refused .. => ExitCode.dataInvalid

/-- The exit code of a catalog file that is not loaded. -/
def catalogFileCode : CatalogFileError → Nat
  | .document e => documentCode e
  | .catalog _ => ExitCode.dataInvalid

/-- The exit code of a schema that is not loaded. -/
def loadCode : LoadError → Nat
  | .member (.unknownKeyword _) => ExitCode.unknownName
  | _ => ExitCode.dataInvalid

/-! ## Reports -/

/-- Why a command ends without a result. -/
structure Failure where
  code : Nat
  message : String
deriving DecidableEq, Repr

namespace Failure

/-- A failure whose message says first what failed. -/
def within (context : String) (code : Nat) (message : String) : Failure :=
  ⟨code, context ++ ": " ++ message⟩

end Failure

/-- How a command ended, and what it did on the way. -/
structure Report where
  result : Except Failure String
  journal : List Event

namespace Report

/-- The exit code. -/
def exitCode (r : Report) : Nat :=
  match r.result with
  | .ok _ => 0
  | .error f => f.code

/-- What is written to the standard output. -/
def output (r : Report) : String :=
  match r.result with
  | .ok text => text
  | .error _ => ""

/-- A report with more in front of its journal. -/
def after (r : Report) (journal : List Event) : Report := { r with journal := journal ++ r.journal }

end Report

/-! ## Commands -/

/-- The program's name and version. -/
def programName : String := "schematype"

@[inherit_doc programName]
def programVersion : String := "0.1.0"

/-- The line that tells the version. -/
def versionLine : String := Output.line (programName ++ " " ++ programVersion)

/-- What is known about the program itself. -/
def provenance : List (String × String) := [
  ("name", programName), ("version", programVersion), ("target", "x86_64-unknown-linux-gnu"),
  ("target_os", "linux"), ("target_arch", "x86_64"), ("rustc", "unknown"), ("git_hash", "unknown"),
  ("data_types", Decimal.naturalText DataType.all.length),
  ("standard_keywords", Decimal.naturalText Catalog.standard.size)]

/-- The keywords of a catalog as they are registered. -/
def registrations (ks : List Keyword) : List Event := ks.map Event.ofKeyword

/-- What the first use of the standard catalog leaves in the journal. -/
def standardSetup : List Event := registrations Catalog.standardKeywords

/-- A catalog or a failure, and what was done on the way. -/
structure Resolved where
  result : Except Failure Catalog
  journal : List Event

/-- The standard catalog, extended or replaced by the one in a file. -/
def resolveCatalog (fs : FileSystem) (path : Option String) (only : Bool) : Resolved :=
  match path with
  | none => ⟨.ok .standard, standardSetup⟩
  | some path =>
      match Catalog.ofFile fs path with
      | .error e => ⟨.error (.within "catalog load failed" (catalogFileCode e) e.message), []⟩
      | .ok custom =>
          let read := registrations custom.keywords ++ [.catalogRead path custom.size]
          if only then ⟨.ok custom, read⟩
          else match Catalog.standard.extend custom with
            | .error e =>
                ⟨.error (.within "catalog merge failed" ExitCode.dataInvalid e.message),
                  read ++ standardSetup⟩
            | .ok merged =>
                ⟨.ok merged, read ++ standardSetup ++ registrations custom.keywords⟩

/-- The text of an input file. -/
def readInput (fs : FileSystem) (path : String) : Except Failure String :=
  (fs.readDocument path defaultMaxSize).mapError fun e ↦
    .within "read failed" (documentCode e) e.message

/-- The text of a JSON value. -/
def Source.read (fs : FileSystem) : Source → Except Failure String
  | .text json => .ok json
  | .file path => readInput fs path

/-- Lists the keywords of a catalog. -/
def runKeywords (fs : FileSystem) (f : OutputFormat) (path : Option String) (only : Bool) :
    Report :=
  let c := resolveCatalog fs path only
  match c.result with
  | .error e => ⟨.error e, c.journal⟩
  | .ok catalog => ⟨.ok (Output.keywords f catalog), c.journal ++ [.catalogResolved catalog.size]⟩

/-- The node that a value is converted from. The name of the type is looked at first. -/
def readTyped (fs : FileSystem) (typeName : String) (source : Source) :
    Except Failure (DataType × Node) :=
  match DataType.ofName typeName with
  | .error e => .error (.within "invalid --type" ExitCode.unknownName e.message)
  | .ok t =>
      match source.read fs with
      | .error e => .error e
      | .ok text =>
          match Node.read text with
          | .error e => .error (.within "invalid input" ExitCode.dataInvalid e.message)
          | .ok node => .ok (t, node)

/-- Converts a value. -/
def runConvert (fs : FileSystem) (f : OutputFormat) (typeName : String) (source : Source) :
    Report :=
  match readTyped fs typeName source with
  | .error e => ⟨.error e, []⟩
  | .ok (t, node) =>
      let converted := t.convert node
      let event := Event.ofConversion t converted
      match converted with
      | .error e =>
          ⟨.error (.within "conversion failed" ExitCode.dataInvalid e.message), [event]⟩
      | .ok v => ⟨.ok (Output.value f v), [event, .valueConverted t v.size]⟩

/-- Loads a schema with a catalog. -/
def loadWith (fs : FileSystem) (f : OutputFormat) (path : String) (c : Catalog) (o : LoadOptions) :
    Report :=
  match readInput fs path with
  | .error e => ⟨.error e, []⟩
  | .ok text =>
      let loaded := c.loadText o text
      match loaded.result with
      | .error e => ⟨.error (.within (path ++ " rejected") (loadCode e) e.message), loaded.journal⟩
      | .ok l =>
          ⟨.ok (Output.schema f l),
            loaded.journal ++ [.schemaLoaded path l.size l.skipped.length]⟩

/-- Loads a schema. The catalog is looked at first. -/
def runLoad (fs : FileSystem) (f : OutputFormat) (path : String) (catalogPath : Option String)
    (only strict allErrors : Bool) : Report :=
  let c := resolveCatalog fs catalogPath only
  match c.result with
  | .error e => ⟨.error e, c.journal⟩
  | .ok catalog =>
      (loadWith fs f path catalog { strict, collect := allErrors }).after c.journal

/-- Shows the version. -/
def runVersion (extended : Bool) : Report :=
  if extended then
    ⟨.ok (Output.lines (provenance.map fun (name, value) ↦ name ++ ": " ++ value)), standardSetup⟩
  else ⟨.ok versionLine, []⟩

/-- Runs a command. -/
def Command.run (fs : FileSystem) (f : OutputFormat) : Command → Report
  | .types => ⟨.ok (Output.dataTypes f), []⟩
  | .keywords catalog only => runKeywords fs f catalog only
  | .convert type source => runConvert fs f type source
  | .load path catalog only strict allErrors => runLoad fs f path catalog only strict allErrors
  | .version extended => runVersion extended

namespace Invocation

/-- Runs an invocation, with a format for when none was asked for. The journal is complete: the
registry of types is built where it is first used, and a failure is noted at the end. -/
def run (i : Invocation) (fs : FileSystem) (default : OutputFormat) : Report :=
  let r := i.command.run fs (i.format.getD default)
  let failed := match r.result with
    | .ok _ => []
    | .error f => [.commandFailed f.code]
  { r with journal := Event.withRegistry r.journal ++ failed }

end Invocation

end KeywordValues.CommandLine
