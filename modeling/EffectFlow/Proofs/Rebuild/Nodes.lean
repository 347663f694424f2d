import EffectFlow.Compile.Compilation
import EffectFlow.Proofs.Pipeline.Numbering
import EffectFlow.Proofs.Rebuild.Outlines
import EffectFlow.Proofs.Rebuild.Settled
import EffectFlow.Proofs.Registry.Tags

/-!
# Nodes of rebuilt programs

A node is *stable* if the registry knows its effects, its chances are percentages, and all its
parameters are settled.  Stable nodes that are numbered from zero are compiled from the program that
is rebuilt from them (`Compiler.nodes_rebuild`).

The nodes stand in ascending order already, so sorting them changes nothing
(`Compiler.plans_cons`).  Then the walk through the program comes upon the plans, and each plan
compiles to the node that it was made from.
-/

namespace EffectFlow

namespace Compiler

variable {c : Compiler}

/-! ## Stable nodes -/

mutual

/-- The node survives the way to blocks and back. -/
def Stable (c : Compiler) : Node → Prop
  | .effect id params _ _ chance =>
    (∃ tag, c.registry.tag? id = some tag ∧ c.Settled tag params) ∧ chance.toNat ≤ 100
  | .gate type params _ onPass onFail =>
    c.Settled type.tag params ∧ StableAll c onPass ∧ StableAll c onFail
termination_by structural node => node

/-- The nodes survive the way to blocks and back. -/
def StableAll (c : Compiler) : List Node → Prop
  | [] => True
  | node :: rest => Stable c node ∧ StableAll c rest
termination_by structural nodes => nodes

end

/-! ## Plans of ordered nodes -/

theorem Stable.exists_plan {n : Node} (h : c.Stable n) : ∃ plan, c.plan? n = some plan := by
  cases n with
  | effect id params order trigger chance =>
    obtain ⟨⟨tag, known, -⟩, -⟩ := h
    exact ⟨_, by rw [plan?, known, Option.map_some]⟩
  | gate type params order onPass onFail => exact ⟨_, rfl⟩

theorem mem_place {order : UInt32} {plan : Plan} {ordered : List (UInt32 × Plan)}
    {entry : UInt32 × Plan} (h : entry ∈ Plan.place order plan ordered) :
    entry = (order, plan) ∨ entry ∈ ordered := by
  induction ordered with
  | nil => exact .inl (List.mem_singleton.1 h)
  | cons first rest ih =>
    obtain ⟨o, q⟩ := first
    rw [Plan.place] at h
    split at h
    · exact List.mem_cons.1 h
    · rcases List.mem_cons.1 h with rfl | h
      · exact .inr List.mem_cons_self
      · rcases ih h with eq | mem
        · exact .inl eq
        · exact .inr (List.mem_cons_of_mem _ mem)

/-- The plans are those of the nodes, and so are their orders. -/
theorem exists_node_of_mem_orderedPlans {nodes : List Node} {entry : UInt32 × Plan}
    (h : entry ∈ c.orderedPlans nodes) :
    ∃ n ∈ nodes, n.order = entry.1 ∧ c.plan? n = some entry.2 := by
  induction nodes with
  | nil => cases h
  | cons n rest ih =>
    rw [orderedPlans] at h
    have fromRest : entry ∈ c.orderedPlans rest →
        ∃ m ∈ n :: rest, m.order = entry.1 ∧ c.plan? m = some entry.2 := by
      intro mem
      obtain ⟨m, there, eq⟩ := ih mem
      exact ⟨m, List.mem_cons_of_mem _ there, eq⟩
    split at h
    · next plan made =>
      rcases mem_place h with rfl | mem
      · exact ⟨n, List.mem_cons_self, rfl, made⟩
      · exact fromRest mem
    · exact fromRest h

/-- A plan of the least order goes to the front. -/
theorem place_of_le {order : UInt32} {plan : Plan} {ordered : List (UInt32 × Plan)}
    (h : ∀ entry ∈ ordered, order ≤ entry.1) :
    Plan.place order plan ordered = (order, plan) :: ordered := by
  cases ordered with
  | nil => rfl
  | cons first rest => rw [Plan.place, if_pos (h first List.mem_cons_self)]

/-- The plan of the first of numbered nodes comes first. -/
theorem plans_cons {start : Nat} {n : Node} {rest : List Node} {plan : Plan}
    (numbered : Node.NumberedAll start (n :: rest))
    (small : start + Node.sizes (n :: rest) ≤ words32) (made : c.plan? n = some plan) :
    c.plans (n :: rest) = plan :: c.plans rest := by
  have first : ∀ entry ∈ c.orderedPlans rest, n.order ≤ entry.1 := by
    intro entry mem
    obtain ⟨m, there, order_eq, -⟩ := exists_node_of_mem_orderedPlans mem
    obtain ⟨here, later⟩ := Node.numberedAll_cons_iff.1 numbered
    obtain ⟨k, low, high, k_eq⟩ := later.exists_order there
    have positive := n.one_le_size
    rw [Node.sizes, words32] at small
    rw [← order_eq, k_eq, here.order_eq, UInt32.le_iff_toNat_le,
      UInt32.toNat_ofNat_of_lt' (show start < 2 ^ 32 by omega),
      UInt32.toNat_ofNat_of_lt' (show k < 2 ^ 32 by omega)]
    omega
  simp only [plans, orderedPlans, made, place_of_le first, List.map_cons]

/-! ## Compiling the plans of nodes -/

theorem effectId?_of_tag? {id : UInt32} {tag : String} (known : c.registry.tag? id = some tag) :
    c.effectId? tag = some id := by
  rw [effectId?, Registry.resolve_eq_found_iff.2 known]

/-- The first block of a plan has its tag and its fields. -/
theorem exists_block {p : Program} {start : Handle} {next : Option Handle} {tag : String}
    {fields : Dict Json.Value} {onPass onFail : List Plan}
    (holds : p.Holds start (Plan.layout start next (.block tag fields onPass onFail))) :
    ∃ b, p.block? start = some b ∧ b.tag = tag ∧ b.fields = fields := by
  obtain ⟨place, there⟩ := holds.firstBlock
  exact ⟨_, there, rfl, rfl⟩

variable {p : Program}

mutual

/-- A stable node is compiled from the blocks of its plan. -/
theorem node?_plan : ∀ {n : Node} {plan : Plan} {k : Nat} {start : Handle}
    {next : Option Handle}, c.Stable n → Node.Numbered k n → k + n.size ≤ words32 →
      c.plan? n = some plan → p.Holds start (Plan.layout start next plan) →
        c.node? p k (plan.outline start) = some n ∧ c.outlineSize (plan.outline start) = n.size
  | .effect id params order trigger chance, plan, k, start, next, stable, numbered, _, made,
      holds => by
    obtain ⟨⟨tag, known, settled⟩, percent⟩ := stable
    rw [plan?, known, Option.map_some] at made
    cases made
    obtain ⟨b, there, tag_eq, fields_eq⟩ := exists_block holds
    have params_eq : c.blockParams b = params := by
      refine settled.blockParams tag_eq fun name plain => ?_
      rw [fields_eq, get?_withTriggerAndChance _ _ _ plain]
    have outline_eq : Plan.outline start
        (.block tag (withTriggerAndChance (c.plannedFields tag params) trigger chance) [] []) =
          .plain start tag := by
      rw [Plan.outline, Registry.ofTag?_eq_none_of_tag? known]
    rw [outline_eq, node?, outlineSize, there, effectId?_of_tag? known]
    refine ⟨?_, rfl⟩
    show some (Node.effect id (c.blockParams b) (UInt32.ofNat k) (blockTrigger? b)
      (blockChance b)) = _
    rw [params_eq, blockTrigger?_withTriggerAndChance settled.get?_triggerKey fields_eq,
      blockChance_withTriggerAndChance percent fields_eq, Node.numbered_effect_iff.1 numbered]
  | .gate type params order onPass onFail, plan, k, start, next, stable, numbered, small, made,
      holds => by
    obtain ⟨settled, stablePass, stableFail⟩ := stable
    obtain ⟨order_eq, numberedPass, numberedFail⟩ := Node.numbered_gate_iff.1 numbered
    have plan_eq : plan = .block type.tag (c.plannedFields type.tag params) (c.plans onPass)
        (c.plans onFail) := (Option.some.inj made).symm
    subst plan_eq
    obtain ⟨b, there, tag_eq, fields_eq⟩ := exists_block holds
    have params_eq : c.blockParams b = params :=
      settled.blockParams tag_eq fun name _ => by rw [fields_eq]
    rw [Node.size] at small
    obtain ⟨passNodes, passSize⟩ :=
      nodes_plans (start + 1) stablePass numberedPass (by omega) holds.passPlans
    obtain ⟨failNodes, failSize⟩ :=
      nodes_plans _ stableFail numberedFail (by omega) holds.failPlans
    have outline_eq : Plan.outline start
        (.block type.tag (c.plannedFields type.tag params) (c.plans onPass) (c.plans onFail)) =
          .gate start type.tag type (Plan.outlines (start + 1) (c.plans onPass))
            (Plan.outlines (start + 1 + Plan.sizes (c.plans onPass)) (c.plans onFail)) := by
      rw [Plan.outline, GateKind.ofTag?_tag]
    rw [outline_eq, node?, outlineSize, there, passSize, failSize]
    refine ⟨?_, rfl⟩
    show some (Node.gate type (c.blockParams b) (UInt32.ofNat k) _ _) = _
    rw [params_eq, passNodes, failNodes, order_eq]

/-- Stable nodes are compiled from the blocks of their plans. -/
theorem nodes_plans : ∀ {nodes : List Node} {k : Nat} (start : Handle), c.StableAll nodes →
    Node.NumberedAll k nodes → k + Node.sizes nodes ≤ words32 →
      p.Holds start (Plan.layoutChain start (c.plans nodes)) →
        c.nodes p k (Plan.outlines start (c.plans nodes)) = nodes ∧
          c.outlineSizes (Plan.outlines start (c.plans nodes)) = Node.sizes nodes
  | [], _, _, _, _, _, _ => ⟨rfl, rfl⟩
  | n :: rest, k, start, ⟨stable, stableRest⟩, numbered, small, holds => by
    obtain ⟨plan, made⟩ := stable.exists_plan
    obtain ⟨here, later⟩ := Node.numberedAll_cons_iff.1 numbered
    rw [plans_cons numbered small made] at holds ⊢
    rw [Node.sizes] at small
    obtain ⟨node_eq, size_eq⟩ := node?_plan stable here (by omega) made holds.firstPlan
    obtain ⟨nodes_eq, sizes_eq⟩ := nodes_plans _ stableRest later (by omega) holds.laterPlans
    rw [Plan.outlines, nodes, outlineSizes, node_eq, size_eq, sizes_eq, Node.sizes]
    refine ⟨?_, rfl⟩
    show n :: c.nodes p (k + n.size) _ = _
    rw [nodes_eq]

end

/-! ## Rebuilt programs -/

/-- Stable nodes that are numbered from zero are compiled from the program rebuilt from them. -/
theorem nodes_rebuild {d : Document} (stable : c.StableAll d.lift)
    (numbered : Node.NumberedAll 0 d.lift) (small : Node.sizes d.lift ≤ words32) :
    (c.compile (c.rebuild d)).nodes = d.lift := by
  show c.nodes (c.rebuild d) 0 (c.rebuild d).outline = d.lift
  rw [outline_rebuild]
  exact (nodes_plans 0 stable numbered (by omega) (c.holds_rebuild d)).1

end Compiler

end EffectFlow
