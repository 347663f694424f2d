import EffectFlow.CommandLine.Directory

/-!
# The command

Reads the files that a request names, runs it, prints the outcome and writes its file.
-/

namespace EffectFlow.CommandLine

/-- Is it the code of an error?  A code comes with either sign. -/
def isCode (n code : UInt32) : Bool := code == n || code == -n

/-- The words for a file error. -/
def reasonOf : IO.Error → String
  | .noFileOrDirectory .. => PathFault.missing.text
  | .inappropriateType _ code _ =>
    if isCode 20 code then PathFault.notADirectory.text else PathFault.isADirectory.text
  | .permissionDenied .. => "Permission denied (os error 13)"
  | error@(.invalidArgument _ code _) =>
    if isCode 36 code then PathFault.tooLong.text else toString error
  | error => toString error

/-- The content of a file, or why it cannot be read. -/
def contentOf (path : String) : IO (Except String String) := do
  try
    let content ← IO.FS.readFile path
    return .ok content
  catch error => return .error (reasonOf error)

/-- The files that a request reads. -/
def Request.inputs : Request → List String
  | .task registry config job =>
    config.toList ++ registry.toList ++ match job with
      | .compile path _ | .decompile path _ | .validate path _ => [path]
      | .auditLegacy => []
  | _ => []

/-- Writes the file of an outcome, if there is one. -/
def Outcome.save (outcome : Outcome) : IO Outcome := do
  match outcome.file with
  | none => return outcome
  | some (path, content) =>
    try
      IO.FS.writeFile path content
      return outcome
    catch error => return outcome.writeFailed path (reasonOf error)

end EffectFlow.CommandLine

open EffectFlow.CommandLine in
/-- Runs the command line. -/
def main (args : List String) : IO UInt32 := do
  let request := Request.parse args
  let contents ← request.inputs.mapM fun path => do return (path, ← contentOf path)
  let files : Files := fun path =>
    match contents.find? (·.1 == path) with
    | some (_, content) => content
    | none => .error PathFault.missing.text
  let outcome ← (request.run files).save
  IO.print outcome.output
  for line in outcome.notes do
    IO.eprintln line
  return UInt32.ofNat outcome.exit
