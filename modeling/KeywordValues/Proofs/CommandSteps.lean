import KeywordValues.CommandLine.Run
import KeywordValues.Proofs.Elementwise

/-!
# Commands step by step

A command finds out the type or the catalog, reads its input, works on it and writes the result.
`Readings.perform` takes these steps one after the other and writes where the step for it comes, so
that a step that fails later would leave what was written before it. For arguments that are accepted
it ends as the report of the invocation says, and nothing is written by a run that fails.
-/

namespace KeywordValues.CommandLine

universe u v

/-! ## Steps that fail and steps that write -/

section

variable {α β : Type u} {ε : Type v} {x : Except ε α} {f : α → Except ε β} {b : β} {e : ε}

theorem bind_eq_ok_iff : x >>= f = .ok b ↔ ∃ a, x = .ok a ∧ f a = .ok b := by
  cases x <;> simp [bind, Except.bind]

theorem bind_eq_error_iff :
    x >>= f = .error e ↔ x = .error e ∨ ∃ a, x = .ok a ∧ f a = .error e := by
  cases x <;> simp [bind, Except.bind]

end

/-- A computation that may fail, next to the texts written so far. -/
abbrev Console := ExceptT Failure (StateM (List String))

namespace Console

variable {α : Type} {p : Console Unit} {r : Except Failure String}

/-- Writes a text. -/
def write (text : String) : Console Unit := modify fun written ↦ written ++ [text]

/-- A step that writes nothing. -/
def step (x : Except Failure α) : Console α := ExceptT.mk (pure x)

/-- How a computation ends, and what is written then. -/
def runFrom (p : Console Unit) (written : List String) : Except Failure Unit × List String :=
  p.run.run written

/-- The exit code of a computation. -/
def exitCode (p : Console Unit) : Nat :=
  match (p.runFrom []).1 with
  | .ok _ => 0
  | .error e => e.code

/-- What a computation has written when it ends. -/
def written (p : Console Unit) : List String := (p.runFrom []).2

/-- A computation has a result: it writes the text of a success, and it fails with a failure before
it has written anything. -/
structure Yields (p : Console Unit) (r : Except Failure String) : Prop where
  ok : ∀ text, r = .ok text → ∀ written, ∃ texts,
    p.runFrom written = (.ok (), written ++ texts) ∧ String.join texts = text
  error : ∀ e, r = .error e → ∀ written, p.runFrom written = (.error e, written)

theorem runFrom_forM_write (texts written : List String) :
    runFrom (texts.forM write) written = (.ok (), written ++ texts) := by
  induction texts generalizing written with
  | nil => exact congrArg (Prod.mk _) (List.append_nil written).symm
  | cons t ts ih =>
      have hstep : runFrom ((t :: ts).forM write) written =
          runFrom (ts.forM write) (written ++ [t]) := rfl
      rw [hstep, ih, List.append_assoc, List.singleton_append]

theorem yields_forM_write (texts : List String) :
    Yields (texts.forM write) (.ok (String.join texts)) where
  ok text htext written := by
    cases htext
    exact ⟨texts, runFrom_forM_write texts written, rfl⟩
  error := nofun

theorem yields_write (text : String) : Yields (write text) (.ok text) where
  ok _ htext written := by
    cases htext
    exact ⟨[text], rfl, by simp⟩
  error := nofun

/-- A step comes before what the rest of a computation writes. -/
theorem yields_step {x : Except Failure α} {f : α → Console Unit} {g : α → Except Failure String}
    (h : ∀ a, x = .ok a → Yields (f a) (g a)) : Yields (step x >>= f) (x >>= g) := by
  cases x with
  | error e =>
      refine ⟨nofun, fun e' he' written ↦ ?_⟩
      cases he'
      rfl
  | ok a => exact ⟨(h a rfl).ok, (h a rfl).error⟩

theorem Yields.written_eq_nil {e : Failure} (h : Yields p (.error e)) : p.written = [] :=
  congrArg Prod.snd (h.error e rfl [])

variable {report : Report}

theorem Yields.exitCode_eq (h : Yields p report.result) : p.exitCode = report.exitCode := by
  unfold exitCode Report.exitCode
  cases hr : report.result with
  | error e => rw [h.error e hr []]
  | ok text =>
      obtain ⟨texts, hrun, -⟩ := h.ok text hr []
      rw [hrun]

theorem Yields.join_written (h : Yields p report.result) :
    String.join p.written = report.output := by
  unfold written Report.output
  cases hr : report.result with
  | error e => rw [h.error e hr [], String.join_nil]
  | ok text =>
      obtain ⟨texts, hrun, htexts⟩ := h.ok text hr []
      rw [hrun, List.nil_append, htexts]

end Console

/-! ## The steps of the commands -/

/-- The data type of a name. -/
def typeNamed (name : String) : Except Failure DataType :=
  (DataType.ofName name).mapError fun e ↦ .within "invalid --type" ExitCode.unknownName e.message

/-- The text of the value to be converted. Either it is given or a file that holds it. -/
def sourceText (fs : FileSystem) (json file : Option String) : Except Failure String :=
  match json, file with
  | some json, none => .ok json
  | none, some path => readInput fs path
  | _, _ => .error ⟨ExitCode.unknownName, "exactly one of --json or --file is required"⟩

/-- The node that a text holds. -/
def nodeIn (text : String) : Except Failure Node :=
  (Node.read text).mapError fun e ↦ .within "invalid input" ExitCode.dataInvalid e.message

/-- The value of a type that is made of a node. -/
def valueOf (t : DataType) (node : Node) : Except Failure TypedValue :=
  (t.convert node).mapError fun e ↦ .within "conversion failed" ExitCode.dataInvalid e.message

/-- The schema that the text of a file holds. -/
def schemaIn (c : Catalog) (o : LoadOptions) (path text : String) : Except Failure LoadedSchema :=
  (c.loadText o text).result.mapError fun e ↦ .within (path ++ " rejected") (loadCode e) e.message

open Console (write step Yields yields_write yields_forM_write yields_step)

namespace Steps

variable (fs : FileSystem) (format : OutputFormat) (catalog : Option String)
  (only strict allErrors : Bool) (path typeName : String) (json file : Option String)

/-- Lists the keywords of a catalog. -/
def keywords : Console Unit := do
  let c ← step (resolveCatalog fs catalog only).result
  write (Output.keywords format c)

/-- Converts a value. The name of the type is looked at first. -/
def convert : Console Unit := do
  let t ← step (typeNamed typeName)
  let text ← step (sourceText fs json file)
  let node ← step (nodeIn text)
  let v ← step (valueOf t node)
  write (Output.value format v)

/-- Loads a schema. The catalog is looked at first. -/
def load : Console Unit := do
  let c ← step (resolveCatalog fs catalog only).result
  let text ← step (readInput fs path)
  let l ← step (schemaIn c { strict, collect := allErrors } path text)
  write (Output.schema format l)

/-- Shows the version, what is known about the program line by line. -/
def version (extended : Bool) : Console Unit :=
  if extended then
    (provenance.map fun (name, value) ↦ Output.line (name ++ ": " ++ value)).forM write
  else write versionLine

end Steps

/-- Runs a command step by step on what was read for it, with a format for when none was asked
for. -/
def Readings.perform (r : Readings) (name : CommandName) (fs : FileSystem)
    (default : OutputFormat) : Console Unit :=
  let format := (r.choice? .format).getD default
  let text (o : OptionName) : String := (r.inner.text? o).getD ""
  let (catalog, only) := (r.inner.text? .catalog, r.inner.has .only)
  match name with
  | .types => write (Output.dataTypes format)
  | .keywords => Steps.keywords fs format catalog only
  | .convert =>
      Steps.convert fs format (text .type) (r.inner.text? .json) (r.inner.text? .file)
  | .load =>
      Steps.load fs format catalog only (r.inner.has .strict) (r.inner.has .allErrors) (text .path)
  | .version => Steps.version (r.inner.has .extended)

/-! ## Results as sequences of steps -/

section

variable {fs : FileSystem} {format : OutputFormat} {path typeName : String}
  {catalog json file : Option String} {only strict allErrors : Bool} {source : Source}

theorem result_runKeywords : (runKeywords fs format catalog only).result = (do
    let c ← (resolveCatalog fs catalog only).result
    .ok (Output.keywords format c)) := by
  unfold runKeywords
  dsimp only
  cases (resolveCatalog fs catalog only).result <;> rfl

theorem result_runConvert : (runConvert fs format typeName source).result = (do
    let t ← typeNamed typeName
    let text ← source.read fs
    let node ← nodeIn text
    let v ← valueOf t node
    .ok (Output.value format v)) := by
  unfold runConvert readTyped typeNamed nodeIn valueOf
  cases DataType.ofName typeName with
  | error e => rfl
  | ok t =>
      cases source.read fs with
      | error e => rfl
      | ok text =>
          cases hnode : Node.read text with
          | error e => simp [hnode, Except.mapError, bind, Except.bind]
          | ok node =>
              cases hv : t.convert node <;>
                simp [hnode, hv, Except.mapError, bind, Except.bind]

theorem result_runLoad : (runLoad fs format path catalog only strict allErrors).result = (do
    let c ← (resolveCatalog fs catalog only).result
    let text ← readInput fs path
    let l ← schemaIn c { strict, collect := allErrors } path text
    .ok (Output.schema format l)) := by
  unfold runLoad loadWith schemaIn
  dsimp only
  cases (resolveCatalog fs catalog only).result with
  | error e => rfl
  | ok c =>
      cases readInput fs path with
      | error e => rfl
      | ok text =>
          cases hl : (c.loadText { strict, collect := allErrors } text).result <;>
            simp [hl, Report.after, Except.mapError, bind, Except.bind]

theorem yields_keywords :
    (Steps.keywords fs format catalog only).Yields (runKeywords fs format catalog only).result := by
  rw [result_runKeywords, Steps.keywords]
  exact yields_step fun c _ ↦ yields_write _

theorem yields_convert (h : sourceText fs json file = source.read fs) :
    (Steps.convert fs format typeName json file).Yields
      (runConvert fs format typeName source).result := by
  rw [result_runConvert, ← h, Steps.convert]
  refine yields_step fun t _ ↦ yields_step fun text _ ↦ ?_
  exact yields_step fun node _ ↦ yields_step fun v _ ↦ yields_write _

theorem yields_load : (Steps.load fs format catalog only strict allErrors path).Yields
    (runLoad fs format path catalog only strict allErrors).result := by
  rw [result_runLoad, Steps.load]
  refine yields_step fun c _ ↦ yields_step fun text _ ↦ ?_
  exact yields_step fun l _ ↦ yields_write _

theorem result_runVersion (extended : Bool) : (runVersion extended).result = .ok
    (if extended then
      String.join (provenance.map fun (name, value) ↦ Output.line (name ++ ": " ++ value))
    else versionLine) := by
  cases extended with
  | false => rfl
  | true =>
      rw [runVersion, if_pos rfl, if_pos rfl, Output.lines, List.map_map]
      rfl

theorem yields_version (extended : Bool) :
    (Steps.version extended).Yields (runVersion extended).result := by
  rw [result_runVersion, Steps.version]
  cases extended with
  | false => exact yields_write versionLine
  | true => exact yields_forM_write _

end

/-! ## Accepted arguments -/

/-- Arguments are accepted: up to the name of a command they are read as its own level, and behind
it as that of the command. -/
def Accepts (env : Environment) (args : List String) (r : Readings) (name : CommandName) : Prop :=
  ∃ before word rest, topLevel.scan {} args = .ok (before, some (word, rest)) ∧
    Named.ofName? word = some name ∧ Invocation.readInner name env rest = .ok r.inner ∧
    topLevel.finish env before = .ok r.top

variable {env : Environment} {args : List String} {i : Invocation} {r : Readings}
  {name : CommandName} {inner : Reading}

/-- Arguments make an invocation exactly if they are accepted. -/
theorem ofArguments_eq_ok_iff : Invocation.ofArguments env args = .ok i ↔
    ∃ r name, Accepts env args r name ∧ i = r.invocation name := by
  unfold Invocation.ofArguments Accepts
  constructor
  · intro h
    obtain ⟨⟨before, command⟩, hscan, h⟩ := bind_eq_ok_iff.1 h
    cases command with
    | none =>
        obtain ⟨_, -, h⟩ := bind_eq_ok_iff.1 h
        cases h
    | some command =>
        obtain ⟨word, rest⟩ := command
        dsimp only at h
        cases hname : (Named.ofName? word : Option CommandName) with
        | none =>
            rw [hname] at h
            cases h
        | some name =>
            rw [hname] at h
            obtain ⟨inner, hinner, h⟩ := bind_eq_ok_iff.1 h
            obtain ⟨top, htop, h⟩ := bind_eq_ok_iff.1 h
            cases h
            exact ⟨⟨top, inner⟩, name, ⟨before, word, rest, hscan, hname, hinner, htop⟩, rfl⟩
  · rintro ⟨r, name, ⟨before, word, rest, hscan, hname, hinner, htop⟩, rfl⟩
    refine bind_eq_ok_iff.2 ⟨_, hscan, ?_⟩
    simp only [hname]
    exact bind_eq_ok_iff.2 ⟨_, hinner, bind_eq_ok_iff.2 ⟨_, htop, rfl⟩⟩

theorem validate_of_readInner (h : Invocation.readInner name env args = .ok inner) :
    name.level.validate inner = .ok () := by
  obtain ⟨⟨scanned, _⟩, -, h⟩ := bind_eq_ok_iff.1 h
  obtain ⟨finished, -, h⟩ := bind_eq_ok_iff.1 h
  obtain ⟨⟨⟩, hvalid, h⟩ := bind_eq_ok_iff.1 h
  cases h
  exact hvalid

theorem validate_eq_ok_iff {l : Level} : l.validate inner = .ok () ↔
    (∀ p ∈ l.exclusive, ¬ (inner.has p.1 = true ∧ inner.has p.2 = true)) ∧
      ∀ q ∈ l.requirements, Level.meets inner q = true := by
  have hexclusive : (l.exclusive.any fun p ↦ inner.has p.1 && inner.has p.2) = true ↔
      ¬ ∀ p ∈ l.exclusive, ¬ (inner.has p.1 = true ∧ inner.has p.2 = true) := by
    simp only [List.any_eq_true, Bool.and_eq_true, not_forall, not_not, exists_prop]
  rw [Level.validate]
  split
  · rename_i h
    exact iff_of_false nofun fun hall ↦ hexclusive.1 h hall.1
  · rename_i h
    rw [and_iff_right (not_not.1 (mt hexclusive.2 h)), ← List.all_eq_true]
    split <;> simp [*]

theorem has_eq_isSome_text? (r : Reading) (o : OptionName) : r.has o = (r.text? o).isSome := by
  rw [Reading.has, Reading.text?, Reading.find?, Option.isSome_map, List.isSome_find?]

/-- Behind the command that converts, the value is given or a file that holds it, and not both. -/
theorem source_of_readInner (h : Invocation.readInner .convert env args = .ok inner) :
    (∃ json, inner.text? .json = some json ∧ inner.text? .file = none) ∨
      ∃ path, inner.text? .json = none ∧ inner.text? .file = some path := by
  obtain ⟨hexclusive, hrequired⟩ := validate_eq_ok_iff.1 (validate_of_readInner h)
  have hone := hexclusive (.json, .file) (List.mem_singleton_self _)
  have hsome := hrequired (.oneOf .json .file) (by decide)
  simp only [Level.meets, has_eq_isSome_text?] at hone hsome
  cases hjson : inner.text? .json with
  | some json =>
      cases hfile : inner.text? .file with
      | some path => exact absurd ⟨by rw [hjson]; rfl, by rw [hfile]; rfl⟩ hone
      | none => exact .inl ⟨json, rfl, rfl⟩
  | none =>
      cases hfile : inner.text? .file with
      | some path => exact .inr ⟨path, rfl, rfl⟩
      | none =>
          rw [hjson, hfile] at hsome
          cases hsome

/-- On accepted arguments a command does step by step what the report of the invocation says. -/
theorem yields_perform (h : Accepts env args r name) (fs : FileSystem) (default : OutputFormat) :
    (r.perform name fs default).Yields ((r.invocation name).run fs default).result := by
  obtain ⟨-, -, rest, -, -, hinner, -⟩ := h
  have hresult : ((r.invocation name).run fs default).result =
      ((r.command name).run fs ((r.choice? .format).getD default)).result := rfl
  rw [hresult]
  cases name with
  | types => exact yields_write _
  | keywords => exact yields_keywords
  | convert =>
      simp only [Readings.command, Command.run]
      apply yields_convert
      rcases source_of_readInner hinner with ⟨json, hjson, hfile⟩ | ⟨path, hjson, hfile⟩
      · rw [hjson, hfile]
        rfl
      · rw [hjson, hfile]
        rfl
  | load => exact yields_load
  | version => exact yields_version _

end KeywordValues.CommandLine
