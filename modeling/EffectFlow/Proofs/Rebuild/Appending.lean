import EffectFlow.Proofs.Compile.Visits
import EffectFlow.Proofs.Rebuild.Building
import EffectFlow.Proofs.Rebuild.Documents
import EffectFlow.Proofs.Rebuild.Trees

/-!
# Rebuilding behind a program

The blocks of plans that are laid out further on are the same blocks with their links *shifted*
(`Plan.map_shift_layoutChain`).  So a document that is rebuilt into a program only appends to it:
the blocks of the program stay as they are, and those that the document is rebuilt to on its own
follow with shifted links (`Compiler.rebuildInto_appends`).
-/

namespace EffectFlow

/-- The block with the handles of its links raised. -/
def Block.shift (n : Nat) (b : Block) : Block :=
  { b with slots := b.slots.map (· + n), next := b.next.map (· + n) }

theorem Dict.map_insert {α β : Type} (d : Dict α) (key : String) (value : α) (f : α → β) :
    (d.insert key value).map f = (d.map f).insert key (f value) := by
  refine ext_get? fun name => ?_
  rw [get?_map, get?_insert, get?_insert, get?_map]
  split <;> rfl

namespace Plan

theorem map_withSlot (n : Nat) (slots : Dict Handle) (branch : Branch) (start : Handle)
    (plans : List Plan) :
    (withSlot slots branch start plans).map (· + n) =
      withSlot (slots.map (· + n)) branch (start + n) plans := by
  rw [withSlot, withSlot]
  split
  · rfl
  · exact slots.map_insert branch.key start _

mutual

/-- A plan that is laid out further on has the same blocks, with shifted links. -/
theorem map_shift_layout (n : Nat) : ∀ (plan : Plan) (start : Handle) (next : Option Handle),
    (layout start next plan).map (Block.shift n) = layout (start + n) (next.map (· + n)) plan
  | .block tag fields onPass onFail, start, next => by
    have passStart : start + 1 + n = start + n + 1 := Nat.add_right_comm start 1 n
    have failStart : start + 1 + sizes onPass + n = start + n + 1 + sizes onPass := by
      rw [Nat.add_right_comm, passStart]
    rw [layout, layout, List.map_cons, List.map_append, map_shift_layoutChain n onPass,
      map_shift_layoutChain n onFail, passStart, failStart, Block.shift]
    simp only [map_withSlot, passStart, failStart]
    rfl

/-- The blocks of plans that are laid out further on have shifted links. -/
theorem map_shift_layoutChain (n : Nat) : ∀ (plans : List Plan) (start : Handle),
    (layoutChain start plans).map (Block.shift n) = layoutChain (start + n) plans
  | [], _ => rfl
  | plan :: rest, start => by
    have after : start + plan.size + n = start + n + plan.size := Nat.add_right_comm start _ n
    rw [layoutChain, layoutChain, List.map_append, map_shift_layout n plan,
      map_shift_layoutChain n rest, after, apply_ite (Option.map (· + n)), Option.map_none,
      Option.map_some, after]

end

end Plan

namespace Compiler

variable {c : Compiler} {d : Document}

/-- A document with plans is rebuilt to a chain from the first block on.  In a program its blocks go
behind those that are there, with shifted links. -/
theorem exists_rebuildInto_eq (nonempty : c.plans d.lift ≠ []) :
    ∃ (first : Block) (rest : List Block), first.position = some c.config.layoutOrigin ∧
      c.rebuild d = ⟨first :: rest, [0]⟩ ∧ ∀ p : Program, c.rebuildInto d p =
        (some p.blocks.length,
          { blocks := p.blocks ++ (first :: rest).map (Block.shift p.blocks.length),
            chains := p.chains ++ [p.blocks.length] }) := by
  have filled : Plan.layoutChain 0 (c.plans d.lift) ≠ [] := by
    intro empty
    have length := Plan.length_layoutChain (c.plans d.lift) 0
    rw [empty] at length
    exact nonempty (Plan.sizes_eq_zero_iff.1 length.symm)
  obtain ⟨first, rest, laid⟩ := List.exists_cons_of_ne_nil filled
  refine ⟨{ first with position := some c.config.layoutOrigin }, rest, rfl, ?_, fun p => ?_⟩
  · rw [rebuild_eq, if_neg nonempty, laid]
    rfl
  · have shifted := Plan.map_shift_layoutChain p.blocks.length (c.plans d.lift) 0
    rw [laid, Nat.zero_add] at shifted
    have placed := p.modifyBlock_extend (first.shift p.blocks.length)
      (rest.map (Block.shift p.blocks.length))
      fun b => { b with position := some c.config.layoutOrigin }
    rw [rebuildInto, List.isEmpty_eq_false_iff.2 nonempty, if_neg Bool.false_ne_true]
    simp only [← shifted]
    refine congrArg (Prod.mk _) ?_
    exact congrArg (fun q : Program => { q with chains := p.chains ++ [p.blocks.length] }) placed

theorem rebuildInto_of_plans_eq_nil (none_planned : c.plans d.lift = []) (p : Program) :
    c.rebuildInto d p = (none, p) := by
  rw [rebuildInto, none_planned]
  rfl

/-- Rebuilding a document into a program builds it block by block, and only appends: the blocks of
the document follow those of the program, with their links shifted behind them. -/
theorem rebuildInto_appends (c : Compiler) (d : Document) (p : Program) :
    c.rebuildInto d p = c.buildInto d p ∧
      ((c.rebuildInto d p).1 = none ↔ (c.rebuild d).blocks = []) ∧
      ((c.rebuildInto d p).1 = none → (c.rebuildInto d p).2 = p) ∧
      ∀ h, (c.rebuildInto d p).1 = some h →
        (c.rebuildInto d p).2.blocks =
          p.blocks ++ (c.rebuild d).blocks.map (Block.shift p.blocks.length) ∧
        (c.rebuildInto d p).2.chains = p.chains ++ [h] ∧
        (∃ head, (c.rebuild d).chains = [head] ∧ h = head + p.blocks.length) ∧
        ∃ b, (c.rebuildInto d p).2.block? h = some b ∧ b.position = some c.config.layoutOrigin := by
  refine ⟨(buildInto_eq_rebuildInto c d p).symm, ?_⟩
  by_cases planned : c.plans d.lift = []
  · have same := rebuildInto_of_plans_eq_nil planned
    refine ⟨?_, fun _ => ?_, fun h found => ?_⟩
    · rw [rebuild, same, same]
      exact iff_of_true rfl rfl
    · rw [same]
    · rw [same] at found
      cases found
  · obtain ⟨first, rest, atOrigin, alone, appended⟩ := exists_rebuildInto_eq planned
    rw [alone, appended]
    refine ⟨iff_of_false (Option.some_ne_none _) (List.cons_ne_nil _ _), fun absent => ?_,
      fun h found => ?_⟩
    · cases absent
    · cases found
      refine ⟨rfl, rfl, ⟨0, rfl, (Nat.zero_add _).symm⟩, ?_⟩
      refine ⟨first.shift p.blocks.length, ?_, atOrigin⟩
      rw [Program.block?, List.map_cons, List.getElem?_append_right (Nat.le_refl _),
        Nat.sub_self]
      rfl

theorem rebuildInto_appends_mixed :
    (twoEffects.rebuildInto (.ofNodes gatedNodes) mixed).1 = some 3 ∧
      (twoEffects.rebuildInto (.ofNodes gatedNodes) mixed).2.chains = [0, 3] ∧
      (twoEffects.rebuildInto (.ofNodes gatedNodes) mixed).2.blocks =
        mixed.blocks ++ (twoEffects.rebuild (.ofNodes gatedNodes)).blocks.map (Block.shift 3) ∧
      (twoEffects.rebuildInto (.ofNodes [.effect 8 ∅ 0 none 100]) mixed).2 = mixed := by
  have head : (twoEffects.rebuildInto (.ofNodes gatedNodes) mixed).1 = some 3 := by decide +kernel
  have missing : (twoEffects.rebuildInto (.ofNodes [.effect 8 ∅ 0 none 100]) mixed).1 = none := by
    decide +kernel
  obtain ⟨-, -, -, appended⟩ := rebuildInto_appends twoEffects (.ofNodes gatedNodes) mixed
  obtain ⟨-, -, unchanged, -⟩ :=
    rebuildInto_appends twoEffects (.ofNodes [.effect 8 ∅ 0 none 100]) mixed
  obtain ⟨blocks, chains, -⟩ := appended 3 head
  exact ⟨head, chains, blocks, unchanged missing⟩

end Compiler

end EffectFlow
