import EffectFlow.Json.Fault
import EffectFlow.Program.Chain

/-!
# Checking links

A program is sound if no link and no chain points nowhere, and no block leads back to itself along
its links.  `Program.check` finds the first thing that is wrong.

* Dangling handles are looked for in the chains, and then in each block: its next block and its
  slots in the order of their names.
* Loops are looked for by a search in depth from each block in turn.  The links of a block are
  followed from the last to the first.  The search reports the block that it comes back to.
-/

namespace EffectFlow

/-- Where a handle stands. -/
inductive Referrer where
  /-- Among the chains. -/
  | chain (index : Nat)
  /-- In the link to the next block. -/
  | next (block : Handle)
  /-- In a slot. -/
  | slot (block : Handle) (name : String)
deriving DecidableEq

/-- A referrer in words. -/
def Referrer.text : Referrer → String
  | chain index => "chains[" ++ toString index ++ "]"
  | next block => "block " ++ block.text ++ " next"
  | slot block name => "block " ++ block.text ++ " " ++ name

/-- What is wrong with a program. -/
inductive ProgramError where
  /-- The text cannot be read. -/
  | malformed (error : Json.ReadError)
  /-- A handle points nowhere. -/
  | dangling (handle : Handle) (referrer : Referrer)
  /-- A block leads back to itself. -/
  | cycle (handle : Handle)
deriving DecidableEq

/-- An error in words. -/
def ProgramError.message : ProgramError → String
  | malformed error => "Failed to parse visual program JSON: " ++ error.message
  | dangling handle referrer =>
    "Block " ++ toString handle ++ " is referenced from " ++ referrer.text ++ " but does not exist"
  | cycle handle =>
    "Block " ++ toString handle ++ " links back to itself through its next or slot links"

/-- The blocks that a block leads to: the next one, and the heads of its nested chains. -/
def Block.links (b : Block) : List Handle := b.next.toList ++ b.slots.values

namespace Program

/-! ## Dangling handles -/

/-- The handles in a block and where they stand. -/
def blockReferences (h : Handle) (b : Block) : List (Handle × Referrer) :=
  (b.next.map fun n => (n, Referrer.next h)).toList ++
    b.slots.entries.map fun e => (e.2, Referrer.slot h e.1)

/-- All handles of a program and where they stand. -/
def references (p : Program) : List (Handle × Referrer) :=
  p.chains.mapIdx (fun i h => (h, Referrer.chain i)) ++
    (p.blocks.mapIdx blockReferences).flatten

/-- The first handle that points nowhere. -/
def dangling? (p : Program) : Option (Handle × Referrer) :=
  p.references.find? fun r => !decide (r.1 < p.blocks.length)

/-! ## Loops -/

/-- Searches from each of some blocks, given the blocks on the way to them and those that are done.
The result is the block where a loop closes, or all blocks that are done. -/
def search (p : Program) (path done : List Handle) : List Handle → Except Handle (List Handle)
  | [] => .ok done
  | h :: rest =>
    if new : h ∈ path then .error h
    else if h ∈ done then p.search path done rest
    else
      match hb : p.block? h with
      | none => p.search path done rest
      | some b =>
        have : p.fresh (h :: path) < p.fresh path := fresh_cons_lt (lt_of_block? hb) new
        match p.search (h :: path) done b.links.reverse with
        | .error loop => .error loop
        | .ok done => p.search path (h :: done) rest
termination_by todo => (p.fresh path, todo.length)

/-- The first block that is found to lead back to itself. -/
def cycle? (p : Program) : Option Handle :=
  match p.search [] [] (List.range p.blocks.length) with
  | .error h => some h
  | .ok _ => none

/-- The first thing that is wrong with the links of a program. -/
def check (p : Program) : Except ProgramError Unit :=
  match p.dangling? with
  | some (handle, referrer) => .error (.dangling handle referrer)
  | none =>
    match p.cycle? with
    | some handle => .error (.cycle handle)
    | none => .ok ()

end Program

end EffectFlow
