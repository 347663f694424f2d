import EffectFlow.Json.Value

/-!
# Names of fields

Some names have a meaning of their own.  The branches of a gate stand under two reserved parameter
names, and two fields of a block hold the trigger and the chance of its effect.

Some fields exist only on blocks (`blockOnlyFields`), and some parameters are left out of documents
while they are empty (`isOmittable`).
-/

namespace EffectFlow

/-- The branches of a gate. -/
inductive Branch where
  /-- What follows when the gate passes. -/
  | onPass
  /-- What follows when the gate fails. -/
  | onFail
deriving DecidableEq, Repr

/-- The reserved name of a branch, as a parameter and as a slot of a block. -/
def Branch.key : Branch → String
  | onPass => "onPass"
  | onFail => "onFail"

/-- Both branches, in order. -/
def Branch.all : List Branch := [onPass, onFail]

/-- The block field with the trigger. -/
def triggerKey : String := "trigger"

/-- The block field with the chance. -/
def chanceKey : String := "chancePct"

/-- Is the name one that never stands for an ordinary parameter? -/
def isReservedName (name : String) : Bool :=
  Branch.all.any (·.key == name) || name == triggerKey || name == chanceKey

/-- The fields that stand on a block and not among the parameters of its effect. -/
def blockOnlyFields (tag : String) : List String :=
  if tag = "effect_teleport" then ["targetRoomZoneId", "targetRoomId"]
  else if tag = "effect_summon" then ["creatureRef"]
  else if tag = "effect_create_item" then ["itemRef"]
  else if tag = "effect_script" then ["scriptId", "args"]
  else []

/-- The fields that are left out of documents while they are empty, each with its tag. -/
def omittableFields : List (String × String) := [
  ("effect_damage", "damageType"),
  ("effect_heal", "scaling"),
  ("effect_script", "args"),
  ("effect_apply_status", "duration"),
  ("gate_check", "comparison")]

/-- Is the field left out of documents while it is empty? -/
def isOmittable (tag field : String) : Bool := omittableFields.contains (tag, field)

/-- Is the value one that an empty field has? -/
def isEmptyMark (v : Json.Value) : Bool :=
  match v.view with
  | .null => true
  | .text s => s.isEmpty
  | _ => false

end EffectFlow
