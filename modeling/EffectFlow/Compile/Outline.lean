import EffectFlow.Gate
import EffectFlow.Fields.Names
import EffectFlow.Program.Chain

/-!
# Outlines of programs

The *outline* of a program is what a walk along its chains comes upon, as a tree: blocks in the
order of the walk, and below each gate the blocks of its two nested chains.

Nothing keeps a nested chain from leading back to a gate around it.  Such a gate is marked as a loop
and not entered again.  So no gate stands below itself, and the outline is finite whatever the links
of the program are.
-/

namespace EffectFlow

/-- What a walk comes upon. -/
inductive Outline where
  /-- A handle that points nowhere. -/
  | missing (block : Handle)
  /-- A block that is no gate. -/
  | plain (block : Handle) (tag : String)
  /-- A gate, with its nested chains. -/
  | gate (block : Handle) (tag : String) (type : GateKind) (onPass onFail : List Outline)
  /-- A gate inside its own nested chains. -/
  | loop (block : Handle) (tag : String)

namespace Program

/-- The outline of a list of blocks inside some gates. -/
def outlineWithin (p : Program) (gates : List Handle) : List Handle → List Outline
  | [] => []
  | h :: rest =>
    let first :=
      match hb : p.block? h with
      | none => .missing h
      | some b =>
        match GateKind.ofTag? b.tag with
        | none => .plain h b.tag
        | some type =>
          if new : h ∈ gates then .loop h b.tag
          else
            have : p.fresh (h :: gates) < p.fresh gates := fresh_cons_lt (lt_of_block? hb) new
            .gate h b.tag type
              (match b.slots.get? Branch.onPass.key with
                | some head => p.outlineWithin (h :: gates) (p.chain head)
                | none => [])
              (match b.slots.get? Branch.onFail.key with
                | some head => p.outlineWithin (h :: gates) (p.chain head)
                | none => [])
    first :: p.outlineWithin gates rest
termination_by blocks => (p.fresh gates, blocks.length)

/-- The outline of the chain at a head. -/
def outlineOf (p : Program) (head : Handle) : List Outline := p.outlineWithin [] (p.chain head)

/-- The outline of all chains, in order. -/
def outline (p : Program) : List Outline := p.chains.flatMap p.outlineOf

end Program

end EffectFlow
