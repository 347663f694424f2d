import EffectFlow.Compile.Compiler
import EffectFlow.Pipeline.Lift

/-!
# Plans of blocks

A *plan* is a block that is to be built, with the plans of its two nested chains.  The nodes of a
document become plans before any block is placed.

Effects that the registry does not know have no plan.  The plans of a chain stand in ascending
order of their nodes, and nodes of one order keep their order in the document.
-/

namespace EffectFlow

open Json (Value)

/-- A block that is to be built. -/
inductive Plan where
  /-- The tag, the fields, and the plans of the two nested chains. -/
  | block (tag : String) (fields : Dict Value) (onPass onFail : List Plan)

/-- Puts a plan before the first plan whose order is not smaller. -/
def Plan.place (order : UInt32) (plan : Plan) : List (UInt32 × Plan) → List (UInt32 × Plan)
  | [] => [(order, plan)]
  | (o, q) :: rest =>
    if order ≤ o then (order, plan) :: (o, q) :: rest else (o, q) :: Plan.place order plan rest

namespace Compiler

/-! ## Fields -/

/-- Restores fields by each rule in turn, and gathers what the rules used up. -/
def restore (rules : List FieldRule) (params : Dict Value) : Restored :=
  rules.foldl (fun done rule =>
    let next := rule.toFields params done.fields
    ⟨next.fields, done.used ++ next.used⟩) ⟨∅, []⟩

/-- The fields of a new block: what the rules restore, and the listed parameters that they leave. -/
def plannedFields (c : Compiler) (tag : String) (params : Dict Value) : Dict Value :=
  let listed := c.fieldsOf tag
  let restored := restore (c.rules.rulesFor tag) params
  let copied := params.filter fun key _ =>
    !restored.used.contains key && !isReservedName key && listed.contains key
  copied.entries.foldl (fun fields e => fields.insert e.1 e.2) restored.fields

/-- The value of a chance. -/
def chanceValue (chance : UInt8) : Value :=
  .number (.ofNat chance.toNat (Nat.le_trans (Nat.le_of_lt chance.toNat_lt) (by decide)))

/-- Adds the trigger, if there is one, and the chance. -/
def withTriggerAndChance (fields : Dict Value) (trigger : Option Trigger) (chance : UInt8) :
    Dict Value :=
  let fields := match trigger with
    | some t => fields.insert triggerKey (.text t.name)
    | none => fields
  fields.insert chanceKey (chanceValue chance)

/-! ## Plans of nodes -/

mutual

/-- The plan of a node. -/
def plan? (c : Compiler) : Node → Option Plan
  | .effect id params _ trigger chance =>
    (c.registry.tag? id).map fun tag =>
      .block tag (withTriggerAndChance (c.plannedFields tag params) trigger chance) [] []
  | .gate type params _ onPass onFail =>
    some (.block type.tag (c.plannedFields type.tag params)
      ((orderedPlans c onPass).map Prod.snd) ((orderedPlans c onFail).map Prod.snd))
termination_by structural node => node

/-- The plans of some nodes in ascending order, each with the order of its node. -/
def orderedPlans (c : Compiler) : List Node → List (UInt32 × Plan)
  | [] => []
  | node :: rest =>
    match plan? c node with
    | some plan => Plan.place node.order plan (orderedPlans c rest)
    | none => orderedPlans c rest
termination_by structural nodes => nodes

end

/-- The plans of some nodes in ascending order. -/
def plans (c : Compiler) (nodes : List Node) : List Plan := (c.orderedPlans nodes).map Prod.snd

end Compiler

end EffectFlow
