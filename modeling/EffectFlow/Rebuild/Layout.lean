import EffectFlow.Rebuild.Plan

/-!
# Laying out plans

Plans become blocks in one list.  A block is followed by the blocks of its nested chains, first on
pass and then on fail, and then by the next block of its own chain.  So the handle of every block is
known from the handle of the first block and from `Plan.size`.

`Compiler.rebuildInto` appends the blocks of a document to a program.
-/

namespace EffectFlow

open Json (Value)

namespace Plan

mutual

/-- The number of blocks of a plan. -/
def size : Plan → Nat
  | block _ _ onPass onFail => 1 + (sizes onPass + sizes onFail)
termination_by structural plan => plan

/-- The number of blocks of some plans. -/
def sizes : List Plan → Nat
  | [] => 0
  | plan :: rest => size plan + sizes rest
termination_by structural plans => plans

end

/-- The slot of a nested chain, given the handle of its first block.  An empty chain has none. -/
def withSlot (slots : Dict Handle) (branch : Branch) (start : Handle) (plans : List Plan) :
    Dict Handle :=
  if plans.isEmpty then slots else slots.insert branch.key start

mutual

/-- The blocks of a plan, given the handle of the first and the next block of its chain. -/
def layout (start : Handle) (next : Option Handle) : Plan → List Block
  | block tag fields onPass onFail =>
    let passStart := start + 1
    let failStart := passStart + sizes onPass
    let slots := withSlot (withSlot ∅ .onPass passStart onPass) .onFail failStart onFail
    { tag, fields, slots, next } :: (layoutChain passStart onPass ++ layoutChain failStart onFail)
termination_by structural plan => plan

/-- The blocks of a chain, given the handle of the first. -/
def layoutChain (start : Handle) : List Plan → List Block
  | [] => []
  | plan :: rest =>
    let after := start + size plan
    let next := if rest.isEmpty then none else some after
    layout start next plan ++ layoutChain after rest
termination_by structural plans => plans

end

end Plan

namespace Compiler

/-- Appends the blocks of a document to a program and makes them a chain.  The result is the head
of the chain, if there are any blocks, and the program. -/
def rebuildInto (c : Compiler) (d : Document) (p : Program) : Option Handle × Program :=
  let plans := c.plans d.lift
  if plans.isEmpty then (none, p)
  else
    let head := p.blocks.length
    let grown : Program := { p with blocks := p.blocks ++ Plan.layoutChain head plans }
    (some head, grown.addChain head c.config.layoutOrigin)

/-- The program of a document. -/
def rebuild (c : Compiler) (d : Document) : Program := (c.rebuildInto d .empty).2

end Compiler

end EffectFlow
