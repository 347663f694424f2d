import EffectFlow.Config
import EffectFlow.Fields.Listing
import EffectFlow.Pipeline.Node

/-!
# The compiler and its blocks

A compiler is a registry, a table of field rules and a configuration.  This module says what it
takes from a single block.

* `Compiler.effectId?` is the number that an effect block is written with.  While the registry is
  not ready, every effect tag gets the placeholder.
* `Compiler.blockParams` are the parameters of a block: its listed fields, but for reserved names
  and empty omittable fields, and those of the field rules in their other form.
* `blockTrigger?` and `blockChance` are read from fields of their own.
-/

namespace EffectFlow

open Json (Value)

/-- What programs and documents are compiled with. -/
structure Compiler where
  /-- The registry. -/
  registry : Registry
  /-- The field rules. -/
  rules : RuleTable := .builtIn
  /-- The settings. -/
  config : Config := .standard

namespace Compiler

/-- The fields of a block. -/
def fieldsOf (c : Compiler) (tag : String) : List String :=
  EffectFlow.fieldsOf c.registry c.rules tag

/-! ## Effects -/

/-- Does the tag begin like an effect tag? -/
def isEffectTag (tag : String) : Bool := (Text.after? effectTagStart.toList tag.toList).isSome

/-- Is a block of the tag written with the placeholder? -/
def isPlaceholder (c : Compiler) (tag : String) : Bool :=
  c.registry.resolve tag == .notLoaded && isEffectTag tag

/-- The number that a block of the tag is written with. -/
def effectId? (c : Compiler) (tag : String) : Option UInt32 :=
  match c.registry.resolve tag with
  | .found id => some id
  | .notLoaded => if isEffectTag tag then some placeholderId else none
  | .unknown => none

/-! ## Parameters -/

/-- The fields of a block that take part in its parameters. -/
def writtenFields (c : Compiler) (b : Block) : Dict Value :=
  let names := c.fieldsOf b.tag
  b.fields.filter fun name v =>
    names.contains name && !isReservedName name && !(isOmittable b.tag name && isEmptyMark v)

/-- The parameters of a block. -/
def blockParams (c : Compiler) (b : Block) : Dict Value :=
  let fields := c.writtenFields b
  let ruleFields := c.rules.blockFields b.tag
  (c.rules.rulesFor b.tag).foldl (fun params rule => rule.toParams fields params)
    (fields.filter fun name _ => !ruleFields.contains name)

end Compiler

/-! ## Trigger and chance -/

/-- The trigger of a block, if its field names one. -/
def blockTrigger? (b : Block) : Option Trigger :=
  ((b.fields.get? triggerKey).bind Value.text?).bind Trigger.ofName?

/-- A number as a percentage: the nearest integer, a half away from zero, brought into the range of
percents. -/
def percent (x : Binary64) : UInt8 := UInt8.ofNat (max 0 (min 100 x.roundHalfAway)).toNat

/-- The percentage that a text spells. -/
def percentOfText? (s : String) : Option UInt8 :=
  match Numeral.real? (Text.trim s.toList) with
  | some (.finite x) => some (percent x)
  | some (.infinite negative) => some (if negative then 0 else 100)
  | some .undefined => some 0
  | none => none

/-- The chance of a block.  Without a field that spells a number it is the default. -/
def blockChance (b : Block) : UInt8 :=
  let chance :=
    match (b.fields.get? chanceKey).map Value.view with
    | some (.number n) => some (percent n.toBinary64)
    | some (.text s) => percentOfText? s
    | _ => none
  chance.getD defaultChance

end EffectFlow
