import EffectFlow.Validation.Legacy
import EffectFlow.Validation.Path
import EffectFlow.Validation.Report

/-!
# Problems of documents

A `Problem` is what may be wrong with a node or an entry.  It has a severity, a source, the field it
is about and a wording, and with a path it is a finding.
-/

namespace EffectFlow

/-- What may be wrong with a node or an entry. -/
inductive Problem where
  /-- The node is an effect and a gate. -/
  | bothKinds
  /-- The node is neither an effect nor a gate. -/
  | noKind
  /-- The effect was written while the registry was not ready. -/
  | placeholder
  /-- The number of the effect is negative. -/
  | invalidId (id : Int64)
  /-- There is no such gate. -/
  | unknownGate (name : String)
  /-- The chance is no percentage. -/
  | chanceOutOfRange (chance : Int64)
  /-- The order is negative. -/
  | negativeOrder (order : Int64)
  /-- An earlier node has the order. -/
  | duplicateOrder (order : Int64) (first : NodePath)
  /-- A gate has a trigger. -/
  | triggerOnGate
  /-- A gate has a chance. -/
  | chanceOnGate (chance : Int64)
  /-- A branch cannot be read. -/
  | malformedBranch (branch : Branch) (error : DocumentError)
  /-- An entry of a branch cannot be read. -/
  | unreadableEntry (error : DocumentError)
  /-- There is no such trigger. -/
  | unknownTrigger (name : String)
  /-- An effect has a branch. -/
  | branchOnEffect (branch : Branch)
  /-- The registry has no such effect. -/
  | unknownEffect (id : UInt32)
  /-- The effect lacks a parameter. -/
  | missingParameter (effect : String) (name : String)
  /-- A parameter is not what the effect declares. -/
  | invalidParameter (name : String) (fault : ValueFault)
  /-- The registry has no such entity. -/
  | danglingReference (name : String) (kind : EntityKind) (zoneId id : Int64)
  /-- The effect lacks a parameter that the legacy table asks for. -/
  | legacyParameter (entry : LegacyEntry) (name : String)

namespace Problem

/-- How bad the problem is. -/
def severity : Problem → Severity
  | triggerOnGate | chanceOnGate _ | branchOnEffect _ | unknownEffect _ | missingParameter _ _
  | danglingReference _ _ _ _ | legacyParameter _ _ => .warning
  | _ => .error

/-- Which check finds the problem. -/
def layer : Problem → CheckLayer
  | unknownEffect _ | missingParameter _ _ | invalidParameter _ _ | danglingReference _ _ _ _ =>
    .schema
  | legacyParameter _ _ => .legacy
  | _ => .structural

/-- The field that the problem is about. -/
def field : Problem → Option String
  | placeholder | invalidId _ | unknownEffect _ => some "effectId"
  | unknownGate _ => some "gateType"
  | chanceOutOfRange _ | chanceOnGate _ => some chanceKey
  | negativeOrder _ | duplicateOrder _ _ => some "order"
  | triggerOnGate | unknownTrigger _ => some triggerKey
  | malformedBranch branch _ | branchOnEffect branch => some branch.key
  | missingParameter _ name | invalidParameter name _ | danglingReference name _ _ _
  | legacyParameter _ name => some name
  | bothKinds | noKind | unreadableEntry _ => none

/-- The problem in words. -/
def message : Problem → String
  | bothKinds => "node sets both effectId and gateType"
  | noKind => "node sets neither effectId nor gateType"
  | placeholder => "effect was written while the registry was not loaded"
  | invalidId id => "effectId must be positive, found " ++ toString id.toInt
  | unknownGate name => "unknown gate type '" ++ name ++ "'"
  | chanceOutOfRange chance =>
    "chancePct must be between 0 and 100, found " ++ toString chance.toInt
  | negativeOrder order => "order must be non-negative, found " ++ toString order.toInt
  | duplicateOrder order first =>
    "order " ++ toString order.toInt ++ " is already used by " ++ first.text
  | triggerOnGate => "trigger is ignored on gates"
  | chanceOnGate chance => "gates always run; chancePct " ++ toString chance.toInt ++ " is ignored"
  | malformedBranch _ error => error.message
  | unreadableEntry error => error.message
  | unknownTrigger name => "unknown trigger '" ++ name ++ "'"
  | branchOnEffect _ => "branches are ignored on effect nodes"
  | unknownEffect id => "effect id " ++ toString id.toNat ++ " is not in the registry"
  | missingParameter effect _ =>
    "required parameter of '" ++ effect ++ "' is missing; the editor default applies"
  | invalidParameter _ fault => fault.message
  | danglingReference _ kind zoneId id =>
    kind.name ++ " " ++ toString zoneId.toInt ++ ":" ++ toString id.toInt ++
      " not found in the registry"
  | legacyParameter entry _ =>
    "legacy schema #" ++ toString entry.id.toNat ++ " '" ++ entry.name ++
      "' requires this parameter"

/-- The finding of a problem at a path. -/
def finding (path : NodePath) (p : Problem) : Finding where
  severity := p.severity
  layer := p.layer
  path := path.text
  field := p.field
  message := p.message

end Problem

end EffectFlow
