import EffectFlow.Fields.Names
import EffectFlow.Gate
import EffectFlow.Trigger

/-!
# Pipeline nodes

A node is an effect or a gate.  A gate has two branches, each a list of nodes.  The *order* of a
node is its place in the pipeline: the node first, then what follows when it passes, then what
follows when it fails.
-/

namespace EffectFlow

open Json (Value)

/-- The chance of an effect that is not given one, in percent. -/
def defaultChance : UInt8 := 100

/-- A node of a pipeline. -/
inductive Node where
  /-- An effect of the registry with its parameters, its trigger and its chance in percent. -/
  | effect (id : UInt32) (params : Dict Value) (order : UInt32) (trigger : Option Trigger)
      (chance : UInt8)
  /-- A gate with its parameters and its branches. -/
  | gate (type : GateKind) (params : Dict Value) (order : UInt32) (onPass onFail : List Node)

namespace Node

/-- The place in the pipeline. -/
def order : Node → UInt32
  | effect _ _ order _ _ => order
  | gate _ _ order _ _ => order

/-- The parameters. -/
def params : Node → Dict Value
  | effect _ params _ _ _ => params
  | gate _ params _ _ _ => params

mutual

/-- The number of nodes in a tree, its root among them. -/
def size : Node → Nat
  | effect _ _ _ _ _ => 1
  | gate _ _ _ onPass onFail => 1 + (sizes onPass + sizes onFail)
termination_by structural node => node

/-- The number of nodes in a list of trees. -/
def sizes : List Node → Nat
  | [] => 0
  | node :: rest => size node + sizes rest
termination_by structural nodes => nodes

end

mutual

/-- The orders of a tree: of the node, of the nodes on pass, of the nodes on fail. -/
def orders : Node → List UInt32
  | effect _ _ order _ _ => [order]
  | gate _ _ order onPass onFail => order :: (ordersOf onPass ++ ordersOf onFail)
termination_by structural node => node

/-- The orders of a list of trees. -/
def ordersOf : List Node → List UInt32
  | [] => []
  | node :: rest => orders node ++ ordersOf rest
termination_by structural nodes => nodes

end

end Node

end EffectFlow
