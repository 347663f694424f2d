import EffectFlow.Text.Cut

/-!
# Arguments of the command line

`Request.parse` reads the arguments of the command.  Options have a long form and a short form, and
their value is the rest of the argument or the next one.  The options for the registry and the
configuration may stand before or after the name of the subcommand, and what stands after it counts.
No option may stand twice in one place.  After `--` everything is a path.
-/

namespace EffectFlow.CommandLine

/-- What the command is asked to do. -/
inductive Task where
  /-- Compile a program into a document. -/
  | compile (program : String) (output : Option String)
  /-- Rebuild a program from a document. -/
  | decompile (document : String) (output : Option String)
  /-- Validate a document. -/
  | validate (document : String) (legacy : Bool)
  /-- Compare the legacy table with the registry. -/
  | auditLegacy
deriving DecidableEq

/-- What a list of arguments asks for. -/
inductive Request where
  /-- A task, with the files of the registry and of the configuration. -/
  | task (registry config : Option String) (task : Task)
  /-- Words about the command. -/
  | help
  /-- The arguments are not understood. -/
  | misuse
deriving DecidableEq

/-! ## Single arguments -/

/-- An argument by its form. -/
inductive Argument where
  /-- Two dashes. -/
  | escape
  /-- An option in long form, perhaps with its value. -/
  | long (name : String) (value : Option String)
  /-- An option in short form and the rest of the argument. -/
  | short (name : Char) (rest : List Char)
  /-- Anything else. -/
  | word (text : String)

/-- The form of an argument. -/
def Argument.of (arg : String) : Argument :=
  match arg.toList with
  | ['-', '-'] => .escape
  | '-' :: '-' :: rest =>
    match Text.cut? (· == '=') rest with
    | some (name, value) => .long (String.ofList name) (some (String.ofList value))
    | none => .long (String.ofList rest) none
  | '-' :: name :: rest => .short name rest
  | _ => .word arg

/-- The value in the rest of a short option, after an optional equals sign. -/
def attached? : List Char → Option String
  | [] => none
  | '=' :: rest => some (String.ofList rest)
  | rest => some (String.ofList rest)

/-! ## Places for options -/

/-- The options and the paths that may stand in a place. -/
structure Place where
  /-- The options with a value: the long and the short form. -/
  valued : List (String × Char)
  /-- The switches. -/
  switches : List String
  /-- The number of paths. -/
  paths : Nat

/-- The options that may stand anywhere. -/
def globalOptions : List (String × Char) := [("registry", 'r'), ("config", 'c')]

/-- What was read in a place. -/
structure Given where
  /-- The options with their values. -/
  values : List (String × String) := []
  /-- The switches. -/
  switches : List String := []
  /-- The paths. -/
  paths : List String := []

/-- The value of an option. -/
def Given.value? (given : Given) (name : String) : Option String :=
  (given.values.find? (·.1 == name)).map Prod.snd

/-- Adds an option, unless it stands there already. -/
def Given.addValue? (given : Given) (name value : String) : Option Given :=
  if given.values.any (·.1 == name) then none
  else some { given with values := (name, value) :: given.values }

/-- Why the reading of a place ends early. -/
inductive Stop where
  /-- Help is asked for. -/
  | help
  /-- The arguments are not understood. -/
  | misuse

/-- Reads the paths of a place. -/
def readPaths (place : Place) (given : Given) (words : List String) : Except Stop Given :=
  let paths := given.paths ++ words
  if paths.length ≤ place.paths then .ok { given with paths } else .error .misuse

/-- The option that an argument starts, with its value if that is attached. -/
def Place.option? (place : Place) : Argument → Option (String × Option String)
  | .long name value => (place.valued.find? (·.1 == name)).map fun o => (o.1, value)
  | .short name rest => (place.valued.find? (·.2 == name)).map fun o => (o.1, attached? rest)
  | _ => none

/-- Reads an argument that needs no other, after the options with a value. -/
def readSingle (place : Place) (given : Given) : Argument → Except Stop Given
  | .word text => readPaths place given [text]
  | .long "help" none => .error .help
  | .short 'h' _ => .error .help
  | .long name none =>
    if place.switches.contains name && !given.switches.contains name then
      .ok { given with switches := name :: given.switches }
    else .error .misuse
  | _ => .error .misuse

/-- Reads the arguments after the name of a subcommand. -/
def readPlace (place : Place) (given : Given) : List String → Except Stop Given
  | [] => .ok given
  | arg :: rest =>
    match Argument.of arg with
    | .escape => readPaths place given rest
    | form =>
      match place.option? form with
      | some (name, some value) =>
        match given.addValue? name value with
        | some given => readPlace place given rest
        | none => .error .misuse
      | some (name, none) =>
        match rest with
        | [] => .error .misuse
        | next :: rest =>
          match Argument.of next with
          | .word value =>
            match given.addValue? name value with
            | some given => readPlace place given rest
            | none => .error .misuse
          | _ => .error .misuse
      | none =>
        match readSingle place given form with
        | .ok given => readPlace place given rest
        | .error stop => .error stop

/-! ## Subcommands -/

/-- A subcommand: what may follow it, and the task that it stands for. -/
structure Subcommand where
  /-- The name. -/
  name : String
  /-- What may follow. -/
  place : Place
  /-- The task, if everything that it needs is given. -/
  task? : Given → Option Task

/-- All subcommands. -/
def subcommands : List Subcommand := [
  { name := "compile"
    place := ⟨globalOptions ++ [("output", 'o')], [], 1⟩
    task? := fun given => given.paths.head?.map fun path => .compile path (given.value? "output") },
  { name := "decompile"
    place := ⟨globalOptions ++ [("output", 'o')], [], 1⟩
    task? := fun given =>
      given.paths.head?.map fun path => .decompile path (given.value? "output") },
  { name := "validate"
    place := ⟨globalOptions, ["legacy"], 1⟩
    task? := fun given =>
      given.paths.head?.map fun path => .validate path (given.switches.contains "legacy") },
  { name := "audit-legacy"
    place := ⟨globalOptions, [], 0⟩
    task? := fun _ => some .auditLegacy }]

/-- The request of the arguments after a subcommand, given the options before it. -/
def Subcommand.request (sub : Subcommand) (before : Given) (args : List String) : Request :=
  match readPlace sub.place {} args with
  | .error .help => .help
  | .error .misuse => .misuse
  | .ok given =>
    match sub.task? given with
    | some task =>
      let value? (name : String) := (given.value? name).or (before.value? name)
      .task (value? "registry") (value? "config") task
    | none => .misuse

/-- The request of the arguments after the word that asks for help. -/
def helpRequest : List String → Request
  | [] => .help
  | [name] => if name = "help" || subcommands.any (·.name == name) then .help else .misuse
  | _ => .misuse

/-- The request of the arguments after some options. -/
def Request.parseAfter (given : Given) : List String → Request
  | [] => .misuse
  | arg :: rest =>
    match Argument.of arg with
    | .escape => .misuse
    | .word text =>
      if text = "help" then helpRequest rest
      else
        match subcommands.find? (·.name == text) with
        | some sub => sub.request given rest
        | none => .misuse
    | .long "version" none => .help
    | .short 'V' _ => .help
    | form =>
      let place : Place := ⟨globalOptions, [], 0⟩
      match place.option? form with
      | some (name, some value) =>
        match given.addValue? name value with
        | some given => parseAfter given rest
        | none => .misuse
      | some (name, none) =>
        match rest with
        | [] => .misuse
        | next :: rest =>
          match Argument.of next with
          | .word value =>
            match given.addValue? name value with
            | some given => parseAfter given rest
            | none => .misuse
          | _ => .misuse
      | none =>
        match readSingle place given form with
        | .error .help => .help
        | _ => .misuse

/-- The request of a list of arguments. -/
def Request.parse (args : List String) : Request := .parseAfter {} args

end EffectFlow.CommandLine
