import EffectFlow.Json.Record
import EffectFlow.Pipeline.Error
import EffectFlow.Pipeline.Node

/-!
# Pipeline documents

A document is the stored form of a pipeline: an array of *stored nodes*.  A stored node is loose.
Its numbers may be out of range, its words may be unknown, and the branches of a gate stand among
its parameters as plain values.

`Document.ofText` reads a document and `Document.toText` writes one.
-/

namespace EffectFlow

open Json (Value Tree Reader Shape Field Origin)

/-- A node as it stands in a document. -/
structure StoredNode where
  /-- The number of the effect, for effects. -/
  effectId : Option Int64
  /-- The name of the gate, for gates. -/
  gateName : Option String
  /-- The parameters, and the branches of a gate. -/
  params : Dict Value
  /-- The place in the pipeline. -/
  order : Int64
  /-- The name of the trigger. -/
  trigger : Option String
  /-- The chance in percent. -/
  chance : Int64
deriving DecidableEq

namespace StoredNode

/-! ## Reading -/

/-- The shape of a node. -/
def shape : Shape StoredNode where
  name := "WireNode"
  blank := ⟨none, none, ∅, 0, none, Int64.ofNat defaultChance.toNat⟩
  fields := [
    .of "effectId" false (.optional .int64) fun x r => { r with effectId := x },
    .of "gateType" false (.optional .text) fun x r => { r with gateName := x },
    .of "overrideParams" false (.dict .value) fun x r => { r with params := x },
    .of "order" true .int64 fun x r => { r with order := x },
    .of "trigger" false (.optional .text) fun x r => { r with trigger := x },
    .of "chancePct" false .int64 fun x r => { r with chance := x }]

/-- Reads a node from a value. -/
def ofValue (v : Value) : Except Json.Fault StoredNode := shape.read .value v.tree.depth v.tree

/-! ## Writing -/

/-- The members of a node in order.  What is absent is left out. -/
def members (w : StoredNode) : List (String × Value) :=
  (w.effectId.map fun x => ("effectId", Value.int64 x)).toList ++
  (w.gateName.map fun x => ("gateType", Value.text x)).toList ++
  [("overrideParams", Value.object w.params), ("order", Value.int64 w.order)] ++
  (w.trigger.map fun x => ("trigger", Value.text x)).toList ++
  [("chancePct", Value.int64 w.chance)]

/-- The tree of a node, with its members in order. -/
def toTree (w : StoredNode) : Tree := .object (w.members.map fun m => (m.1, m.2.tree))

/-- The value of a node. -/
def toValue (w : StoredNode) : Value := Value.ofMembers w.members

end StoredNode

/-- A stored pipeline. -/
structure Document where
  /-- The nodes of the top level. -/
  nodes : List StoredNode
deriving DecidableEq

namespace Document

instance : Inhabited Document := ⟨⟨[]⟩⟩

/-- Reads a document from a text. -/
def ofText (text : String) : Except DocumentError Document :=
  match Reader.ofText (Reader.list (StoredNode.shape.read .text)) text with
  | .ok nodes => .ok ⟨nodes⟩
  | .error error => .error (.malformed error)

/-- Reads a document from a value. -/
def ofValue (v : Value) : Except DocumentError Document :=
  match Reader.list (StoredNode.shape.read .value) v.tree.depth v.tree with
  | .ok nodes => .ok ⟨nodes⟩
  | .error fault => .error (.malformed ⟨fault, true⟩)

/-- The text of a document. -/
def toText (d : Document) : String := (Tree.array (d.nodes.map (·.toTree))).pretty

/-- The value of a document. -/
def toValue (d : Document) : Value := Value.array (d.nodes.map (·.toValue))

end Document

end EffectFlow
