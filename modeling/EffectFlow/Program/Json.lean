import EffectFlow.Json.Record
import EffectFlow.Program.Links

/-!
# Programs as JSON

`Program.ofText` reads a program and checks its links.  `Program.ofTextUnchecked` leaves them
alone.  `Program.toText` writes a program; empty slots and absent links and places are left out.
-/

namespace EffectFlow

open Json (Tree Reader Shape Field)

/-! ## Reading -/

/-- Reads a place on the canvas. -/
def Position.read : Reader Position := fun room t =>
  (Reader.pair .float room t).map fun (x, y) => ⟨x, y⟩

/-- The shape of a block. -/
def Block.shape : Shape Block where
  name := "Block"
  blank := { tag := "" }
  fields := [
    .of "type" true .text fun x r => { r with tag := x },
    .of "fields" false (.dict .value) fun x r => { r with fields := x },
    .of "slots" false (.dict .index) fun x r => { r with slots := x },
    .of "next" false (.optional .index) fun x r => { r with next := x },
    .of "position" false (.optional Position.read) fun x r => { r with position := x }]

/-- The shape of a program. -/
def Program.shape : Shape Program where
  name := "VisualProgram"
  blank := .empty
  fields := [
    .of "blocks" false (.list (Block.shape.read .text)) fun x r => { r with blocks := x },
    .of "chains" false (.list .index) fun x r => { r with chains := x }]

/-- Reads a program and leaves its links alone. -/
def Program.ofTextUnchecked (text : String) : Except ProgramError Program :=
  match Reader.ofText (shape.read .text) text with
  | .ok p => .ok p
  | .error error => .error (.malformed error)

/-- Reads a program and checks its links. -/
def Program.ofText (text : String) : Except ProgramError Program :=
  match ofTextUnchecked text with
  | .ok p =>
    match p.check with
    | .ok () => .ok p
    | .error error => .error error
  | .error error => .error error

/-! ## Writing -/

/-- The tree of a handle.  Handles are words of 64 bits, and a larger one is written as the largest
of them. -/
def Handle.toTree (h : Handle) : Tree :=
  .number (.ofNat (min h Json.maxUnsigned64) (Nat.min_le_right _ _))

/-- The tree of a place on the canvas. -/
def Position.toTree (p : Position) : Tree := .array [.float p.x, .float p.y]

/-- The tree of a block. -/
def Block.toTree (b : Block) : Tree := .object (
  [("type", .text b.tag), ("fields", .object (b.fields.map (·.tree)).entries)] ++
  (if b.slots.isEmpty then [] else [("slots", .object (b.slots.map Handle.toTree).entries)]) ++
  (b.next.map fun n => ("next", Handle.toTree n)).toList ++
  (b.position.map fun p => ("position", p.toTree)).toList)

/-- The tree of a program. -/
def Program.toTree (p : Program) : Tree := .object [
  ("blocks", .array (p.blocks.map (·.toTree))),
  ("chains", .array (p.chains.map Handle.toTree))]

/-- The text of a program. -/
def Program.toText (p : Program) : String := p.toTree.pretty

end EffectFlow
