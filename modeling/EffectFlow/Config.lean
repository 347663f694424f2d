import EffectFlow.Json.Record
import EffectFlow.Program.Json
import EffectFlow.Registry.Basic

/-!
# Configuration

The settings of the compiler and of the validator.  Each has a default, so `{}` is a configuration.
-/

namespace EffectFlow

open Json (Shape Field Reader)

/-- The settings of the compiler and of the validator. -/
structure Config where
  /-- The place on the canvas of the head of a rebuilt program. -/
  layoutOrigin : Position
  /-- The label of effects while the registry is not ready. -/
  placeholderLabel : String
  /-- Does the validator also consult the legacy table? -/
  legacyChecks : Bool
deriving DecidableEq

namespace Config

/-- The settings that hold unless others are chosen. -/
def standard : Config := ⟨⟨.ofNat 20, .ofNat 20⟩, defaultPlaceholderLabel, false⟩

instance : Inhabited Config := ⟨standard⟩

/-- The shape of a configuration. -/
def shape : Shape Config where
  name := "CompilerConfig"
  blank := standard
  fields := [
    .of "layoutOrigin" false Position.read fun x r => { r with layoutOrigin := x },
    .of "placeholderLabel" false .text fun x r => { r with placeholderLabel := x },
    .of "legacyChecks" false .bool fun x r => { r with legacyChecks := x }]

end Config

/-- Why there is no configuration. -/
inductive ConfigError where
  /-- The file cannot be read. -/
  | file (path reason : String)
  /-- The text cannot be read. -/
  | malformed (error : Json.ReadError)
deriving DecidableEq

/-- An error in words. -/
def ConfigError.message : ConfigError → String
  | file path reason => "Could not read config file '" ++ path ++ "': " ++ reason
  | malformed error => "Failed to parse config JSON: " ++ error.message

/-- Reads a configuration from a text. -/
def Config.ofText (text : String) : Except ConfigError Config :=
  (Reader.ofText (shape.read .text) text).mapError .malformed

end EffectFlow
