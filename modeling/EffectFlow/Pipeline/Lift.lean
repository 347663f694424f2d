import EffectFlow.Pipeline.Entry

/-!
# Stored nodes and typed nodes

*Lifting* gives a stored node its type.  It fails if the node is neither or both of effect and gate,
or if a number or a name does not fit.  What stands below is forgiven: entries that do not lift are
left out, unknown triggers are dropped, and chances are brought into range.

*Lowering* writes a typed node as a stored node, with the branches of a gate among its parameters.
-/

namespace EffectFlow

open Json (Value)

/-! ## Lifting -/

/-- The word of 32 bits of an integer in its range. -/
def word32? (n : Int64) : Option UInt32 :=
  if 0 ≤ n.toInt ∧ n.toInt < words32 then some (UInt32.ofNat n.toInt.toNat) else none

/-- What a node is. -/
inductive NodeKind where
  /-- An effect. -/
  | effect (id : UInt32)
  /-- A gate. -/
  | gate (type : GateKind)
deriving DecidableEq

namespace StoredNode

/-- The kind of a node that is exactly one of effect and gate. -/
def kind (w : StoredNode) : Except DocumentError NodeKind :=
  match w.effectId, w.gateName with
  | some id, some name => .error (.bothKinds w.order id name)
  | none, none => .error (.noKind w.order)
  | some id, none =>
    match (word32? id).filter (· ≠ 0) with
    | some n => .ok (.effect n)
    | none => .error (.invalidId id)
  | none, some name =>
    match GateKind.ofName? name with
    | some type => .ok (.gate type)
    | none => .error (.unknownGate name)

/-- The order and the kind of a node. -/
def head (w : StoredNode) : Except DocumentError (UInt32 × NodeKind) :=
  match word32? w.order with
  | some order => w.kind.map fun kind => (order, kind)
  | none => .error (.orderOutOfRange w.order)

/-- The parameters without the branches. -/
def plainParams (w : StoredNode) : Dict Value :=
  w.params.filter fun key _ => !Branch.all.any (·.key == key)

/-- The chance, brought into the range of percents. -/
def clampedChance (w : StoredNode) : UInt8 := UInt8.ofNat (max 0 (min 100 w.chance.toInt)).toNat

end StoredNode

mutual

/-- Lifts an entry. -/
def Entry.lift : Entry → Except DocumentError Node
  | .unreadable error => .error error
  | .node w onPass onFail =>
    match w.head with
    | .error error => .error error
    | .ok (order, .effect id) =>
      .ok (.effect id w.plainParams order (w.trigger.bind Trigger.ofName?) w.clampedChance)
    | .ok (order, .gate type) =>
      .ok (.gate type w.plainParams order (Entry.liftAll onPass) (Entry.liftAll onFail))
termination_by structural entry => entry

/-- Lifts the entries that have a type, and leaves the others out. -/
def Entry.liftAll : List Entry → List Node
  | [] => []
  | entry :: rest =>
    match entry.lift with
    | .ok lifted => lifted :: Entry.liftAll rest
    | .error _ => Entry.liftAll rest
termination_by structural entries => entries

end

/-- Lifts a stored node. -/
def StoredNode.lift (w : StoredNode) : Except DocumentError Node := w.entry.lift

/-- Lifts the nodes of a document that have a type. -/
def Document.lift (d : Document) : List Node := Entry.liftAll d.entries

/-! ## Lowering -/

/-- The chance that gates are written with. -/
def gateChance : Int64 := 100

/-- Puts the nodes of a branch among the parameters, if there are any. -/
def withBranch (params : Dict Value) (branch : Branch) (nodes : List StoredNode) : Dict Value :=
  if nodes.isEmpty then params
  else params.insert branch.key (Value.array (nodes.map (·.toValue)))

mutual

/-- Lowers a node. -/
def Node.lower : Node → StoredNode
  | .effect id params order trigger chance =>
    { effectId := some (Int64.ofNat id.toNat)
      gateName := none
      params := params
      order := Int64.ofNat order.toNat
      trigger := trigger.map (·.name)
      chance := Int64.ofNat chance.toNat }
  | .gate type params order onPass onFail =>
    { effectId := none
      gateName := some type.name
      params :=
        withBranch (withBranch params .onPass (Node.lowerAll onPass)) .onFail (Node.lowerAll onFail)
      order := Int64.ofNat order.toNat
      trigger := none
      chance := gateChance }
termination_by structural node => node

/-- Lowers a list of nodes. -/
def Node.lowerAll : List Node → List StoredNode
  | [] => []
  | node :: rest => node.lower :: Node.lowerAll rest
termination_by structural nodes => nodes

end

/-- The document of a list of nodes. -/
def Document.ofNodes (nodes : List Node) : Document := ⟨Node.lowerAll nodes⟩

end EffectFlow
