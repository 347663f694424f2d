import EffectFlow.Compile.Compilation
import EffectFlow.Proofs.Pipeline.Numbering

/-!
# Compiled nodes

An outline is *of* a program if its parts are blocks of the program (`Outline.Of`).  The outline of
a program is (`Program.allOf_outline`).

Compiling such an outline gives as many nodes as its size says, numbered from the number that was
given (`Compiler.nodes_numbered`).
-/

namespace EffectFlow

/-! ## Outlines of a program -/

namespace Outline

mutual

/-- The parts of the outline are what the program has at their handles. -/
def Of (p : Program) : Outline → Prop
  | missing h => p.block? h = none
  | plain h tag => ∃ b, p.block? h = some b ∧ b.tag = tag ∧ GateKind.ofTag? tag = none
  | gate h tag type onPass onFail =>
    (∃ b, p.block? h = some b ∧ b.tag = tag ∧ GateKind.ofTag? tag = some type) ∧
      AllOf p onPass ∧ AllOf p onFail
  | loop h tag => ∃ b, p.block? h = some b ∧ b.tag = tag
termination_by structural outline => outline

/-- The parts of the outlines are what the program has at their handles. -/
def AllOf (p : Program) : List Outline → Prop
  | [] => True
  | o :: rest => Of p o ∧ AllOf p rest
termination_by structural outlines => outlines

end

theorem allOf_append {p : Program} {front back : List Outline} (hf : AllOf p front)
    (hb : AllOf p back) : AllOf p (front ++ back) := by
  induction front with
  | nil => exact hb
  | cons o rest ih => exact ⟨hf.1, ih hf.2⟩

end Outline

namespace Program

/-- Outlines are made of blocks of the program. -/
theorem allOf_outlineWithin (p : Program) (gates handles : List Handle) :
    Outline.AllOf p (p.outlineWithin gates handles) := by
  fun_induction Program.outlineWithin p gates handles with
  | case1 => trivial
  | case2 gates h rest first inside later =>
    refine ⟨?_, later⟩
    simp only [first]
    split
    · next missing => exact missing
    · next b there =>
      split
      · next plain => exact ⟨b, there, rfl, plain⟩
      · next type isGate =>
        split
        · exact ⟨b, there, rfl⟩
        · next new =>
          refine ⟨⟨b, there, rfl, isGate⟩, ?_, ?_⟩
          all_goals
            split
            · next head slot => exact inside b there new head
            · trivial

/-- The outline of a program is made of its blocks. -/
theorem allOf_outline (p : Program) : Outline.AllOf p p.outline := by
  rw [outline]
  induction p.chains with
  | nil => trivial
  | cons head rest ih =>
    rw [List.flatMap_cons]
    exact Outline.allOf_append (p.allOf_outlineWithin [] (p.chain head)) ih

end Program

/-! ## Numbers of compiled nodes -/

namespace Compiler

variable {c : Compiler} {p : Program}

mutual

/-- A part of an outline becomes as many nodes as its size says, numbered from its number on. -/
theorem node?_numbered : ∀ {o : Outline} (start : Nat), o.Of p →
    match c.node? p start o with
    | some n => n.Numbered start ∧ n.size = c.outlineSize o
    | none => c.outlineSize o = 0
  | .missing h, start, _ => rfl
  | .loop h tag, start, _ => rfl
  | .plain h tag, start, ⟨b, there, _, _⟩ => by
    rw [node?, outlineSize, there]
    cases c.effectId? tag with
    | none => rfl
    | some id => exact ⟨Node.numbered_effect_iff.2 rfl, rfl⟩
  | .gate h tag type onPass onFail, start, ⟨_, ofPass, ofFail⟩ => by
    obtain ⟨passNumbered, passSize⟩ := nodes_numbered (start + 1) ofPass
    obtain ⟨failNumbered, failSize⟩ :=
      nodes_numbered (start + 1 + c.outlineSizes onPass) ofFail
    rw [node?, outlineSize]
    refine ⟨Node.numbered_gate_iff.2 ⟨rfl, passNumbered, ?_⟩, ?_⟩
    · rw [passSize]
      exact failNumbered
    · rw [Node.size, passSize, failSize]

/-- An outline becomes as many nodes as its size says, numbered from its number on. -/
theorem nodes_numbered : ∀ {os : List Outline} (start : Nat), Outline.AllOf p os →
    Node.NumberedAll start (c.nodes p start os) ∧
      Node.sizes (c.nodes p start os) = c.outlineSizes os
  | [], start, _ => ⟨Node.numberedAll_nil start, rfl⟩
  | o :: rest, start, ⟨ofHead, ofRest⟩ => by
    have head := node?_numbered start ofHead
    rw [nodes, outlineSizes]
    cases made : c.node? p start o with
    | none =>
      rw [made] at head
      obtain ⟨numbered, size⟩ := nodes_numbered start ofRest
      refine ⟨numbered, ?_⟩
      show Node.sizes (c.nodes p start rest) = _
      rw [size, show c.outlineSize o = 0 from head, Nat.zero_add]
    | some n =>
      rw [made] at head
      obtain ⟨headNumbered, headSize⟩ :
        n.Numbered start ∧ n.size = c.outlineSize o := head
      obtain ⟨numbered, size⟩ := nodes_numbered (start + c.outlineSize o) ofRest
      constructor
      · refine Node.numberedAll_cons_iff.2 ⟨headNumbered, ?_⟩
        rw [headSize]
        exact numbered
      · show n.size + Node.sizes (c.nodes p (start + c.outlineSize o) rest) = _
        rw [headSize, size]

end

/-- The nodes of a program are numbered from zero. -/
theorem numberedAll_compile (c : Compiler) (p : Program) :
    Node.NumberedAll 0 (c.compile p).nodes :=
  (nodes_numbered 0 p.allOf_outline).1

end Compiler

end EffectFlow
