import EffectFlow.Json.Value

/-!
# Block programs

A program is a list of blocks and the heads of its chains.  A block has a tag, fields, and links to
other blocks: one to the next block of its chain, and one from each slot to the head of a nested
chain.  A link is a *handle*, the place of a block in the list.  A handle may point nowhere.

Blocks are never taken away.  `Program.addBlock` appends one, and the other operations change the
block at a handle and leave a program as it is if there is none.
-/

namespace EffectFlow

open Json (Value)

/-- The place of a block in its program. -/
abbrev Handle := Nat

/-- A handle in words. -/
def Handle.text (h : Handle) : String := "#" ++ toString h

/-- A place on the canvas. -/
structure Position where
  /-- The distance from the left. -/
  x : Binary64
  /-- The distance from the top. -/
  y : Binary64
deriving DecidableEq

/-- A block. -/
structure Block where
  /-- The tag. -/
  tag : String
  /-- The fields by name. -/
  fields : Dict Value := ∅
  /-- The heads of the nested chains by slot. -/
  slots : Dict Handle := ∅
  /-- The next block of the chain. -/
  next : Option Handle := none
  /-- The place on the canvas. -/
  position : Option Position := none
deriving DecidableEq

/-- Blocks and the heads of the chains that stand on their own. -/
structure Program where
  /-- The blocks. -/
  blocks : List Block
  /-- The heads of the chains. -/
  chains : List Handle
deriving DecidableEq

namespace Program

/-- No blocks. -/
def empty : Program := ⟨[], []⟩

instance : Inhabited Program := ⟨empty⟩

/-! ## Looking -/

/-- The block at a handle. -/
def block? (p : Program) (h : Handle) : Option Block := p.blocks[h]?

/-- The tag of a block. -/
def tag? (p : Program) (h : Handle) : Option String := (p.block? h).map (·.tag)

/-- A field of a block. -/
def field? (p : Program) (h : Handle) (name : String) : Option Value :=
  (p.block? h).bind (·.fields.get? name)

/-- The head of a nested chain. -/
def slot? (p : Program) (h : Handle) (slot : String) : Option Handle :=
  (p.block? h).bind (·.slots.get? slot)

/-- The next block of the chain. -/
def next? (p : Program) (h : Handle) : Option Handle := (p.block? h).bind (·.next)

theorem tag?_of_block? {p : Program} {h : Handle} {b : Block} (there : p.block? h = some b) :
    p.tag? h = some b.tag := by
  rw [tag?, there, Option.map_some]

theorem next?_of_block? {p : Program} {h : Handle} {b : Block} (there : p.block? h = some b) :
    p.next? h = b.next := by
  rw [next?, there, Option.bind_some]

/-! ## Changing -/

/-- Appends a block and gives its handle. -/
def addBlock (p : Program) (tag : String) : Handle × Program :=
  (p.blocks.length, { p with blocks := p.blocks ++ [{ tag }] })

/-- Changes the block at a handle. -/
def modifyBlock (p : Program) (h : Handle) (change : Block → Block) : Program :=
  { p with blocks := p.blocks.modify h change }

/-- Sets a field of a block. -/
def setField (p : Program) (h : Handle) (name : String) (value : Value) : Program :=
  p.modifyBlock h fun b => { b with fields := b.fields.insert name value }

/-- Sets the head of a nested chain. -/
def setSlot (p : Program) (h : Handle) (slot : String) (head : Handle) : Program :=
  p.modifyBlock h fun b => { b with slots := b.slots.insert slot head }

/-- Sets the next block of a chain. -/
def connect (p : Program) (source target : Handle) : Program :=
  p.modifyBlock source fun b => { b with next := some target }

/-- Links blocks in sequence. -/
def link (p : Program) : List Handle → Program
  | a :: b :: rest => (p.connect a b).link (b :: rest)
  | _ => p

/-- Makes a block the head of a chain at a place on the canvas. -/
def addChain (p : Program) (head : Handle) (position : Position) : Program :=
  let placed := p.modifyBlock head fun b => { b with position := some position }
  { placed with chains := p.chains ++ [head] }

end Program

end EffectFlow
