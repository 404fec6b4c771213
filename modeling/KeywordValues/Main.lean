import KeywordValues.CommandLine.Help
import KeywordValues.CommandLine.Log

/-!
# The program

Asks the operating system for what an invocation looks at, runs it and writes its report. A file is
read no further than it takes to see that it is over the limit.
-/

namespace KeywordValues

/-- The number of an error, which some operations give negated, as a word. -/
def errorWord? : IO.Error → Option UInt32
  | .alreadyExists _ n _ | .otherError n _ | .resourceBusy n _ | .resourceVanished n _
  | .unsupportedOperation n _ | .hardwareFault n _ | .unsatisfiedConstraints n _
  | .illegalOperation n _ | .protocolError n _ | .timeExpired n _ | .interrupted _ n _
  | .noFileOrDirectory _ n _ | .invalidArgument _ n _ | .permissionDenied _ n _
  | .resourceExhausted _ n _ | .inappropriateType _ n _ | .noSuchThing _ n _ => some n
  | .unexpectedEof | .userError _ => none

/-- The fault that an error stands for. -/
def FileFault.ofError (e : IO.Error) : FileFault :=
  match (errorWord? e).map fun n ↦ n.toInt32.toInt.natAbs with
  | some 1 => .notPermitted
  | some 2 => .notFound
  | some 13 => .permissionDenied
  | some 20 => .notADirectory
  | some 36 => .nameTooLong
  | some 40 => .tooManyLinks
  | _ => .other (toString e)

/-- The answer of the operating system, or its fault. -/
def answerOf {α : Type} (act : IO α) : IO (Except FileFault α) := do
  match ← act.toBaseIO with
  | .ok a => return .ok a
  | .error e => return .error (.ofError e)

/-- Reads on until the end, or until enough bytes are there. -/
partial def readUpTo (h : IO.FS.Handle) (enough : Nat) (bytes : ByteArray) : IO ByteArray := do
  if enough ≤ bytes.size then return bytes
  let more ← h.read (USize.ofNat (min 65536 (enough - bytes.size)))
  if more.isEmpty then return bytes
  readUpTo h enough (bytes ++ more)

/-- What a path leads to. A file that is over the limit by its reported size is not opened. -/
def targetAt (path : String) : IO Target := do
  let about ← (IO.FS.DirEntry.mk "." path).path.metadata
  match about.type with
  | .file =>
      if defaultMaxSize < about.byteSize then return .regular ⟨about.byteSize.toNat, .empty⟩
      let h ← IO.FS.Handle.mk path .read
      return .regular ⟨about.byteSize.toNat, ← readUpTo h (readLimit defaultMaxSize) .empty⟩
  | _ => return .special

/-- Whether a path names a symbolic link. -/
def isLinkAt (path : String) : IO Bool := do
  return (← (IO.FS.DirEntry.mk "." path).path.symlinkMetadata).type == .symlink

/-- The answers about some paths, which are all that is asked for. -/
def observe (paths : List String) : IO FileSystem := do
  let links ← paths.mapM fun path ↦ return (path, ← answerOf (isLinkAt path))
  let targets ← paths.mapM fun path ↦ return (path, ← answerOf (targetAt path))
  return ⟨fun path ↦ (links.lookup path).getD (.error .notFound),
    fun path ↦ (targets.lookup path).getD (.error .notFound)⟩

open CommandLine

/-- The variables of the environment that stand in for options. -/
def readEnvironment : IO Environment := do
  let levels := topLevel :: (Named.choices : List (String × CommandName)).map (·.2.level)
  let names := levels.flatMap fun l ↦ l.options.filterMap (·.variableName)
  names.eraseDups.filterMapM fun name ↦ return (← IO.getEnv name).map (name, ·)

end KeywordValues

open KeywordValues KeywordValues.CommandLine in
/-- Runs the program. -/
def main (args : List String) : IO UInt32 := do
  match Invocation.ofArguments (← readEnvironment) args with
  | .error e =>
      match e with
      | .helpShown => IO.print helpText
      | .versionShown => IO.print versionLine
      | .nothingAsked => IO.eprint helpText
      | e => IO.eprintln ("error: " ++ e.message)
      return e.exitCode.toUInt32
  | .ok i =>
      let terminal ← (← IO.getStdout).isTty
      let r := i.run (← observe i.command.paths) (if terminal then .table else .json)
      IO.print r.output
      for line in i.errorLines r do
        IO.eprintln line
      return r.exitCode.toUInt32
