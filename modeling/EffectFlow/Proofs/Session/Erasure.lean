import EffectFlow.Proofs.Rebuild.Nodes
import EffectFlow.Proofs.Validation.Compiled
import EffectFlow.Session

/-!
# Loading before the registry is ready

Before the registry is ready no effect has a tag.  So the program that is rebuilt from a document
has a block for each gate and none for an effect (`Compiler.plans_of_unready`).  When it is applied,
nothing in it waits for the registry, and the document may be saved although its effects are gone
(`Session.isSavable_reapply`).
-/

namespace EffectFlow

/-! ## Plans of gates -/

namespace Plan

mutual

/-- All tags in the plan are tags of gates. -/
def OnlyGates : Plan → Prop
  | block tag _ onPass onFail =>
    (∃ type, GateKind.ofTag? tag = some type) ∧ AllOnlyGates onPass ∧ AllOnlyGates onFail
termination_by structural plan => plan

/-- All tags in the plans are tags of gates. -/
def AllOnlyGates : List Plan → Prop
  | [] => True
  | plan :: rest => OnlyGates plan ∧ AllOnlyGates rest
termination_by structural plans => plans

end

theorem place_gates {order : UInt32} {plan : Plan} {ordered : List (UInt32 × Plan)}
    (here : plan.OnlyGates) (there : AllOnlyGates (ordered.map Prod.snd)) :
    AllOnlyGates ((place order plan ordered).map Prod.snd) ∧
      sizes ((place order plan ordered).map Prod.snd) =
        plan.size + sizes (ordered.map Prod.snd) := by
  induction ordered with
  | nil => exact ⟨⟨here, trivial⟩, rfl⟩
  | cons first rest ih =>
    obtain ⟨o, q⟩ := first
    rw [place]
    split
    · exact ⟨⟨here, there⟩, rfl⟩
    · obtain ⟨gates, sizes_eq⟩ := ih there.2
      refine ⟨⟨there.1, gates⟩, ?_⟩
      rw [List.map_cons, sizes, sizes_eq, List.map_cons, sizes]
      exact Nat.add_left_comm _ _ _

end Plan

namespace Compiler

variable {c : Compiler}

mutual

/-- A plan of gates becomes as many nodes as it has blocks, and no placeholder. -/
theorem outlineSize_of_onlyGates : ∀ {plan : Plan} (start : Handle), plan.OnlyGates →
    c.outlineSize (plan.outline start) = plan.size ∧ c.placeholders (plan.outline start) = []
  | .block tag fields onPass onFail, start, ⟨⟨type, isGate⟩, gatesPass, gatesFail⟩ => by
    obtain ⟨passSize, passReal⟩ := outlineSizes_of_onlyGates (start + 1) gatesPass
    obtain ⟨failSize, failReal⟩ :=
      outlineSizes_of_onlyGates (start + 1 + Plan.sizes onPass) gatesFail
    simp only [Plan.outline, isGate, outlineSize, placeholders, passSize, failSize, passReal,
      failReal, Plan.size, List.append_nil, and_self]

/-- Every block of a plan of gates becomes a node, and none is a placeholder. -/
theorem outlineSizes_of_onlyGates : ∀ {plans : List Plan} (start : Handle),
    Plan.AllOnlyGates plans → c.outlineSizes (Plan.outlines start plans) = Plan.sizes plans ∧
      c.placeholdersOf (Plan.outlines start plans) = []
  | [], _, _ => ⟨rfl, rfl⟩
  | plan :: rest, start, ⟨gates, gatesRest⟩ => by
    obtain ⟨size, real⟩ := outlineSize_of_onlyGates start gates
    obtain ⟨sizeRest, realRest⟩ := outlineSizes_of_onlyGates (start + plan.size) gatesRest
    rw [Plan.outlines, outlineSizes, placeholdersOf, size, real, sizeRest, realRest, Plan.sizes]
    exact ⟨rfl, rfl⟩

end

theorem tag?_of_unready (unready : c.registry.isReady = false) (id : UInt32) :
    c.registry.tag? id = none := by
  refine Option.eq_none_iff_forall_ne_some.2 fun tag known => ?_
  obtain ⟨d, mem, -⟩ := c.registry.holds_index.tag?_iff.1 known
  rw [Registry.isReady_eq_false_iff.1 unready] at mem
  cases mem

mutual

/-- While the registry is not ready, the plan of a node has its gates and nothing else. -/
theorem plan?_of_unready (unready : c.registry.isReady = false) : ∀ n : Node,
    match c.plan? n with
    | some plan => plan.OnlyGates ∧ plan.size = n.preorder.countP Node.isGate
    | none => n.preorder.countP Node.isGate = 0
  | .effect id params order trigger chance => by
    rw [plan?, tag?_of_unready unready]
    rfl
  | .gate type params order onPass onFail => by
    obtain ⟨gatesPass, passSizes⟩ := plans_of_unready unready onPass
    obtain ⟨gatesFail, failSizes⟩ := plans_of_unready unready onFail
    refine ⟨⟨⟨type, GateKind.ofTag?_tag type⟩, gatesPass, gatesFail⟩, ?_⟩
    rw [Node.preorder, List.countP_cons_of_pos rfl, List.countP_append, ← passSizes, ← failSizes,
      Nat.add_comm]
    rfl

/-- The plans of a document are those of its gates. -/
theorem plans_of_unready (unready : c.registry.isReady = false) : ∀ nodes : List Node,
    Plan.AllOnlyGates (c.plans nodes) ∧
      Plan.sizes (c.plans nodes) = (Node.preorderAll nodes).countP Node.isGate
  | [] => ⟨trivial, rfl⟩
  | n :: rest => by
    have here := plan?_of_unready unready n
    obtain ⟨gatesRest, sizesRest⟩ := plans_of_unready unready rest
    rw [plans, orderedPlans, Node.preorderAll, List.countP_append, ← sizesRest]
    cases made : c.plan? n with
    | none =>
      rw [made] at here
      refine ⟨gatesRest, ?_⟩
      rw [show n.preorder.countP Node.isGate = 0 from here, Nat.zero_add]
      rfl
    | some plan =>
      rw [made] at here
      obtain ⟨gates, size⟩ := here
      rw [← size]
      exact Plan.place_gates gates gatesRest

end

/-- Of a document that is loaded and compiled again, the gates are left, and nothing waits. -/
theorem compile_rebuild_of_unready (unready : c.registry.isReady = false) (d : Document) :
    (c.compile (c.rebuild d)).nodeCount = (Node.preorderAll d.lift).countP Node.isGate ∧
      (c.compile (c.rebuild d)).placeholders = [] := by
  obtain ⟨gates, sizes⟩ := plans_of_unready unready d.lift
  obtain ⟨count, real⟩ := outlineSizes_of_onlyGates (c := c) 0 gates
  constructor
  · rw [nodeCount_compile, outline_rebuild, count, sizes]
  · show c.placeholdersOf (c.rebuild d).outline = []
    rw [outline_rebuild, real]

end Compiler

namespace Session

/-! ## Loading and applying -/

/-- A session after its program is loaded and applied as it is. -/
def reapply (s : Session) : Session := s.takeProgram s.program

/-- Before the registry is ready, a document that is loaded and applied again keeps as many nodes as
it had gates, and it may be saved.  So either it may not be saved or no node is lost, exactly if it
had no effects. -/
theorem isSavable_reapply {r : Registry} (unready : r.isReady = false) (d : Document)
    (small : (Node.preorderAll d.lift).countP Node.isGate < words32) :
    (resume r d).reapply.isSavable = true ∧
      (resume r d).reapply.document.orders.length =
        (Node.preorderAll d.lift).countP Node.isGate ∧
      ((resume r d).reapply.isSavable = false ∨
          (resume r d).reapply.document.orders.length = Node.sizes d.lift ↔
        ∀ n ∈ Node.preorderAll d.lift, n.isGate = true) := by
  obtain ⟨count, noneWaits⟩ :=
    Compiler.compile_rebuild_of_unready (c := (resume r d).compiler) unready d
  have savable : (resume r d).reapply.isSavable = true :=
    Compiler.valid_of_unready (c := (resume r d).compiler) rfl (by rwa [count]) noneWaits unready
  have length : (resume r d).reapply.document.orders.length =
      (Node.preorderAll d.lift).countP Node.isGate := by
    rw [← count]
    show ((resume r d).compiler.document ((resume r d).compiler.rebuild d)).orders.length = _
    rw [Compiler.orders_eq_map_storedOrder, List.length_map, Node.length_ordersOf]
    rfl
  refine ⟨savable, length, ?_⟩
  rw [savable, length, ← Node.length_preorderAll, ← List.countP_eq_length]
  simp

/-- A check with a heal on pass. -/
def gatedHeal : List Node := [.gate .check ∅ 0 [.effect 3 ∅ 1 none 100] []]

theorem isSavable_reapply_gatedHeal :
    (resume .empty (Document.ofNodes gatedHeal)).reapply.isSavable = true ∧
      (resume .empty (Document.ofNodes gatedHeal)).reapply.document.orders.length = 1 := by
  have free : BranchFree ∅ := fun _ => rfl
  have sound : Node.SoundAll gatedHeal :=
    ⟨⟨free, ⟨⟨by decide, by decide, free⟩, trivial⟩, trivial⟩, trivial⟩
  have gates : (Node.preorderAll (Document.ofNodes gatedHeal).lift).countP Node.isGate = 1 := by
    rw [Document.lift_ofNodes sound]
    rfl
  obtain ⟨savable, length, -⟩ :=
    isSavable_reapply (r := .empty) rfl (Document.ofNodes gatedHeal) (by rw [gates]; decide)
  exact ⟨savable, length.trans gates⟩

/-- A heal at the top of a document. -/
def loneHeal : Document := ⟨[⟨some 3, none, ∅, 0, none, 100⟩]⟩

/-- Before the registry is ready, an effect is lost from a document that may be saved. -/
theorem savable_and_erased :
    Registry.empty.isReady = false ∧
      ¬((resume .empty loneHeal).reapply.isSavable = false ∨
        (resume .empty loneHeal).reapply.document.orders.length = Node.sizes loneHeal.lift) := by
  refine ⟨rfl, ?_⟩
  have savable : (resume .empty loneHeal).reapply.isSavable = true := by rfl
  have empty : (resume .empty loneHeal).reapply.document.orders.length = 0 := by rfl
  have one : Node.sizes loneHeal.lift = 1 := by rfl
  rw [savable, empty, one]
  decide

end Session

end EffectFlow
