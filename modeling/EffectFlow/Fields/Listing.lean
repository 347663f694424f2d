import EffectFlow.Fields.Rule
import EffectFlow.Gate
import EffectFlow.Registry.Basic

/-!
# The fields of a block

The fields of a block are those of its gate or the parameters of its effect, then the fields that
exist only on blocks, and then those of its rules.  Each name is listed once, at its
first place.
-/

namespace EffectFlow

/-- The name in an effect tag: what follows the start, or the whole tag without it. -/
def effectName (tag : String) : String :=
  match Text.after? effectTagStart.toList tag.toList with
  | some name => String.ofList name
  | none => tag

/-- The fields of a gate, or the parameters of an effect. -/
def baseFields (registry : Registry) (tag : String) : List String :=
  match GateKind.ofTag? tag with
  | some gate => gate.fields
  | none =>
    match registry.effectNamed? (Text.lowercase (effectName tag)) with
    | some d => d.parameters.keys
    | none => []

/-- The fields of a block. -/
def fieldsOf (registry : Registry) (rules : RuleTable) (tag : String) : List String :=
  (baseFields registry tag ++ blockOnlyFields tag ++ rules.blockFields tag).eraseDups

end EffectFlow
