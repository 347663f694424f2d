import EffectFlow.CommandLine.Arguments
import EffectFlow.Registry.Json
import EffectFlow.Session

/-!
# Running the command line

`Request.run` does what a request asks for.  It takes the contents of files as a function and gives
an `Outcome`: what is printed, the exit status, and a file to write.  So nothing here touches the
world.

The configuration is read first, then the registry, then the document or the program.  The first
thing that goes wrong ends the run with status 1.  Arguments that are not understood end it with
status 2.
-/

namespace EffectFlow.CommandLine

/-- What a run leaves behind. -/
structure Outcome where
  /-- The exit status. -/
  exit : Nat
  /-- What is printed. -/
  output : String := ""
  /-- What is printed for errors and notes, by lines. -/
  notes : List String := []
  /-- A file to write: its path and its content. -/
  file : Option (String × String) := none
deriving DecidableEq

/-- A step of a run.  It may leave notes, and it may fail with a message. -/
abbrev Step := ExceptT String (StateM (List String))

/-- Leaves a note. -/
def note (line : String) : Step Unit := modify fun lines => lines ++ [line]

/-- The contents of files.  A file that cannot be read has a reason. -/
abbrev Files := String → Except String String

/-- The notes of a failure. -/
def failureNotes (message : String) : List String := ["", "Error: " ++ message]

/-- The result of a step, or a failure with a message made from its error. -/
def orFail {ε α : Type} (result : Except ε α) (message : ε → String) : Step α :=
  match result with
  | .ok x => pure x
  | .error error => throw (message error)

/-! ## Inputs -/

/-- Reads the configuration. -/
def loadConfig (files : Files) : Option String → Step Config
  | none => pure .standard
  | some path => do
    let failed (error : ConfigError) :=
      "Failed to load config '" ++ path ++ "': " ++ error.message
    let text ← orFail (files path) fun reason => failed (.file path reason)
    orFail (Config.ofText text) failed

/-- Reads and installs the registry. -/
def loadRegistry (files : Files) (config : Config) : Option String → Step Registry
  | none => do
    note "No registry provided. Effects will resolve as not loaded."
    pure (Registry.empty.withLabel config.placeholderLabel)
  | some path => do
    let failed (error : RegistryError) := "Failed to load registry: " ++ error.message
    let text ← orFail (files path) fun reason => failed (.load (.file path reason))
    let snapshot ← orFail (Snapshot.ofText text) failed
    orFail ((Registry.empty.withLabel config.placeholderLabel).install snapshot).toExcept
      fun error => "Invalid registry '" ++ path ++ "': " ++ error.message

/-- Reads a file. -/
def readFile (files : Files) (path : String) : Step String :=
  orFail (files path) fun reason => "Failed to read '" ++ path ++ "': " ++ reason

/-- Reads a document. -/
def readDocument (files : Files) (path : String) : Step Document := do
  let text ← readFile files path
  orFail (Document.ofText text) fun error => "Failed to parse document: " ++ error.message

/-! ## Tasks -/

/-- Prints a text, or puts it into a file. -/
def deliver (output : Option String) (content : String) : Outcome :=
  match output with
  | some path => { exit := 0, file := some (path, content) }
  | none => { exit := 0, output := content ++ "\n" }

/-- The note about a block that was skipped. -/
def skippedNote (s : Skip) : String :=
  "  skipped " ++ s.block.text ++ " (" ++ s.tag.getD "?" ++ "): " ++ s.cause.text

/-- Does a task. -/
def Task.run (files : Files) (registry : Registry) (config : Config) : Task → Step Outcome
  | .compile path output => do
    let text ← readFile files path
    let program ← orFail (Program.ofText text) fun error =>
      "Failed to parse program: " ++ error.message
    let result := Compiler.compile { registry, config } program
    note ("Serialized " ++ toString result.nodeCount ++ " node(s), " ++
      toString result.nodes.length ++ " top-level")
    if !result.placeholders.isEmpty then
      note ("  " ++ toString result.placeholders.length ++
        " effect block(s) written with placeholder ids; load a registry")
    for s in result.skipped do
      note (skippedNote s)
    pure (deliver output result.document.toText)
  | .decompile path output => do
    let document ← readDocument files path
    let program := Compiler.rebuild { registry, config } document
    note ("Rebuilt " ++ toString program.blocks.length ++ " block(s)")
    pure (deliver output program.toText)
  | .validate path legacy => do
    let document ← readDocument files path
    let config := { config with legacyChecks := config.legacyChecks || legacy }
    let report := Validator.validate { registry, config } document
    pure { exit := if report.valid then 0 else 1, output := report.text ++ "\n" }
  | .auditLegacy => do
    if !registry.isReady then
      throw "audit-legacy needs a populated registry (--registry)"
    pure { exit := 0, output := Discrepancy.list (LegacyEntry.audit registry) ++ "\n" }

/-- Does what a request asks for. -/
def Request.run (files : Files) : Request → Outcome
  | .help => { exit := 0 }
  | .misuse => { exit := 2 }
  | .task registry config job =>
    let step : Step Outcome := do
      let config ← loadConfig files config
      let registry ← loadRegistry files config registry
      job.run files registry config
    match step.run [] with
    | (.ok outcome, notes) => { outcome with notes }
    | (.error message, notes) => { exit := 1, notes := notes ++ failureNotes message }

/-- What is left of a run whose file cannot be written. -/
def Outcome.writeFailed (outcome : Outcome) (path reason : String) : Outcome :=
  { outcome with
    exit := 1
    file := none
    notes := outcome.notes ++ failureNotes ("Failed to write '" ++ path ++ "': " ++ reason) }

end EffectFlow.CommandLine
