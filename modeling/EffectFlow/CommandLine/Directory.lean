import EffectFlow.CommandLine.Run
import EffectFlow.Dict

/-!
# A directory of files

A `Directory` stands for the working directory of a run: the contents of files by name.  A name may
lead through directories, which exist if a file stands in them.

Paths are followed step by step as a file system does it, and what goes wrong has the usual words.
The first step that cannot be taken counts.  Outside the working directory only the directories
above it are known.  No file is found there, and what is written there is lost.
-/

namespace EffectFlow.CommandLine

/-- The contents of files by name. -/
abbrev Directory := Dict String

/-- Why a path leads to no file. -/
inductive PathFault where
  /-- There is no such file. -/
  | missing
  /-- A file stands where a directory is needed. -/
  | notADirectory
  /-- A directory stands where a file is needed. -/
  | isADirectory
  /-- The path or one of its steps is too long. -/
  | tooLong
deriving DecidableEq

/-- A path fault in words. -/
def PathFault.text : PathFault → String
  | missing => "No such file or directory (os error 2)"
  | notADirectory => "Not a directory (os error 20)"
  | isADirectory => "Is a directory (os error 21)"
  | tooLong => "File name too long (os error 36)"

/-! ## Paths -/

/-- The steps of a path. -/
def stepsOf (path : String) : List String :=
  (path.toList.splitBy fun a b => a != '/' && b != '/').filterMap fun cs =>
    if cs = ['/'] then none else some (String.ofList cs)

/-- The name of some steps. -/
def nameOf (steps : List String) : String := String.intercalate "/" steps

/-- Does the path end in a slash? -/
def endsInSlash (path : String) : Bool := path.toList.getLast? == some '/'

/-- The most bytes of a step. -/
def maxStep : Nat := 255

/-- The most bytes of a path. -/
def maxPath : Nat := 4095

/-- Where one stands while a path is followed. -/
inductive Location where
  /-- In the working directory or, after some steps, below it. -/
  | inside (steps : List String)
  /-- In a directory above. -/
  | outside

/-- The directory around a location. -/
def Location.parent : Location → Location
  | inside [] => outside
  | inside steps => inside steps.dropLast
  | outside => outside

/-- The location where a path starts: the top of all directories after a slash. -/
def Location.start (path : String) : Location :=
  if path.toList.head? = some '/' then outside else inside []

/-- What a path leads to. -/
inductive Target where
  /-- A file. -/
  | file (name : String)
  /-- A directory. -/
  | directory
  /-- Nothing, but a file may be put there. -/
  | vacant (name : String)
  /-- A name outside the working directory. -/
  | elsewhere

namespace Directory

/-- Is there a file under the steps and further ones? -/
def isDirectory (d : Directory) (steps : List String) : Bool :=
  d.keys.any fun name =>
    let full := stepsOf name
    steps.length < full.length && full.take steps.length == steps

/-- Follows the steps of a path from a location. -/
def follow (d : Directory) (here : Location) : List String → Except PathFault Target
  | [] => .ok .directory
  | "." :: rest => d.follow here rest
  | ".." :: rest => d.follow here.parent rest
  | step :: rest =>
    if maxStep < step.utf8ByteSize then .error .tooLong
    else
      match here with
      | .outside => if rest.isEmpty then .ok .elsewhere else .error .missing
      | .inside steps =>
        let there := steps ++ [step]
        let name := nameOf there
        if d.contains name then
          if rest.isEmpty then .ok (.file name) else .error .notADirectory
        else if d.isDirectory there then d.follow (.inside there) rest
        else if rest.isEmpty then .ok (.vacant name)
        else .error .missing

/-- What the steps of a path lead to, if the path may be followed at all. -/
def locate (d : Directory) (path : String) (steps : List String) : Except PathFault Target :=
  if path.isEmpty then .error .missing
  else if maxPath < path.utf8ByteSize then .error .tooLong
  else d.follow (.start path) steps

/-- The content of the file at a path.  A slash at the end asks for a directory. -/
def content (d : Directory) (path : String) : Except PathFault String := do
  match ← d.locate path (stepsOf path) with
  | .file name =>
    if endsInSlash path then .error .notADirectory
    else
      match d.get? name with
      | some content => .ok content
      | none => .error .missing
  | .directory => .error .isADirectory
  | .vacant _ | .elsewhere => .error .missing

/-- Puts a file at a path.  With a slash at the end there is no file to put, once the directory
around it is found. -/
def write (d : Directory) (path content : String) : Except PathFault Directory :=
  if endsInSlash path then do
    match ← d.locate path (stepsOf path).dropLast with
    | .directory => .error .isADirectory
    | .file _ => .error .notADirectory
    | .vacant _ | .elsewhere => .error .missing
  else do
    match ← d.locate path (stepsOf path) with
    | .file name | .vacant name => .ok (d.insert name content)
    | .elsewhere => .ok d
    | .directory => .error .isADirectory

/-- The contents of files by their paths. -/
def files (d : Directory) : Files := fun path => (d.content path).mapError PathFault.text

end Directory

/-- Runs the command line in a directory.  The result is what is left of the run, and the directory
afterwards. -/
def runIn (d : Directory) (args : List String) : Outcome × Directory :=
  let outcome := (Request.parse args).run d.files
  match outcome.file with
  | none => (outcome, d)
  | some (path, content) =>
    match d.write path content with
    | .ok changed => (outcome, changed)
    | .error fault => (outcome.writeFailed path fault.text, d)

end EffectFlow.CommandLine
