import EffectFlow.Compile.Compiler
import EffectFlow.Compile.Outline
import EffectFlow.Pipeline.Lift

/-!
# Compiling programs

Compiling turns the outline of a program into nodes.  Effects and gates become nodes.  All else is
skipped, and the compilation says why.  The nodes are numbered in the order of the outline, each
gate before what is nested in it, with one count for the whole document.

`Compiler.node?` takes the number of the first node.  So the numbers of what follows depend on
`Compiler.outlineSize`, the number of nodes that a part of the outline becomes.
-/

namespace EffectFlow

/-- Why a block is not compiled. -/
inductive SkipCause where
  /-- Neither the registry nor the gates know its tag. -/
  | unknownTag
  /-- The handle points nowhere. -/
  | noBlock
  /-- The block is a gate inside its own nested chains. -/
  | cycle
deriving DecidableEq

/-- A reason in words. -/
def SkipCause.text : SkipCause → String
  | unknownTag => "unknown block type"
  | noBlock => "missing block"
  | cycle => "branch loops back to an enclosing gate"

/-- A block that is not compiled. -/
structure Skip where
  /-- The block. -/
  block : Handle
  /-- Its tag, if there is a block. -/
  tag : Option String
  /-- The reason. -/
  cause : SkipCause
deriving DecidableEq

/-- What compiling a program gives. -/
structure Compilation where
  /-- The nodes of the top level. -/
  nodes : List Node
  /-- The blocks that were skipped. -/
  skipped : List Skip
  /-- The blocks that were written with the placeholder. -/
  placeholders : List Handle

/-- The document of the nodes. -/
def Compilation.document (c : Compilation) : Document := .ofNodes c.nodes

/-- The number of nodes, those of branches among them. -/
def Compilation.nodeCount (c : Compilation) : Nat := Node.sizes c.nodes

namespace Compiler

/-! ## Nodes -/

mutual

/-- The number of nodes that a part of an outline becomes. -/
def outlineSize (c : Compiler) : Outline → Nat
  | .missing _ => 0
  | .plain _ tag => if (c.effectId? tag).isSome then 1 else 0
  | .gate _ _ _ onPass onFail => 1 + (outlineSizes c onPass + outlineSizes c onFail)
  | .loop _ _ => 0
termination_by structural outline => outline

/-- The number of nodes that some parts of an outline become. -/
def outlineSizes (c : Compiler) : List Outline → Nat
  | [] => 0
  | o :: rest => outlineSize c o + outlineSizes c rest
termination_by structural outlines => outlines

end

mutual

/-- The node of a part of an outline, given the number of its first node. -/
def node? (c : Compiler) (p : Program) (start : Nat) : Outline → Option Node
  | .missing _ => none
  | .plain h tag =>
    match p.block? h, c.effectId? tag with
    | some b, some id =>
      some (.effect id (c.blockParams b) (UInt32.ofNat start) (blockTrigger? b) (blockChance b))
    | _, _ => none
  | .gate h _ type onPass onFail =>
    let params := match p.block? h with
      | some b => c.blockParams b
      | none => ∅
    some (.gate type params (UInt32.ofNat start) (nodes c p (start + 1) onPass)
      (nodes c p (start + 1 + outlineSizes c onPass) onFail))
  | .loop _ _ => none
termination_by structural outline => outline

/-- The nodes of some parts of an outline, given the number of the first node. -/
def nodes (c : Compiler) (p : Program) (start : Nat) : List Outline → List Node
  | [] => []
  | o :: rest =>
    match node? c p start o with
    | some n => n :: nodes c p (start + outlineSize c o) rest
    | none => nodes c p start rest
termination_by structural outlines => outlines

end

/-! ## What is skipped, and what is written with the placeholder -/

mutual

/-- The blocks of a part of an outline that are skipped. -/
def skipped (c : Compiler) : Outline → List Skip
  | .missing h => [⟨h, none, .noBlock⟩]
  | .plain h tag => if (c.effectId? tag).isSome then [] else [⟨h, some tag, .unknownTag⟩]
  | .gate _ _ _ onPass onFail => skippedOf c onPass ++ skippedOf c onFail
  | .loop h tag => [⟨h, some tag, .cycle⟩]
termination_by structural outline => outline

/-- The blocks of some parts of an outline that are skipped. -/
def skippedOf (c : Compiler) : List Outline → List Skip
  | [] => []
  | o :: rest => skipped c o ++ skippedOf c rest
termination_by structural outlines => outlines

end

mutual

/-- The blocks of a part of an outline that are written with the placeholder. -/
def placeholders (c : Compiler) : Outline → List Handle
  | .plain h tag => if c.isPlaceholder tag then [h] else []
  | .gate _ _ _ onPass onFail => placeholdersOf c onPass ++ placeholdersOf c onFail
  | _ => []
termination_by structural outline => outline

/-- The blocks of some parts of an outline that are written with the placeholder. -/
def placeholdersOf (c : Compiler) : List Outline → List Handle
  | [] => []
  | o :: rest => placeholders c o ++ placeholdersOf c rest
termination_by structural outlines => outlines

end

/-! ## Programs -/

/-- Compiles a program. -/
def compile (c : Compiler) (p : Program) : Compilation where
  nodes := c.nodes p 0 p.outline
  skipped := c.skippedOf p.outline
  placeholders := c.placeholdersOf p.outline

/-- The document of a program. -/
def document (c : Compiler) (p : Program) : Document := (c.compile p).document

end Compiler

end EffectFlow
