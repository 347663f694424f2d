import EffectFlow.Proofs.Pipeline.NormalForms
import EffectFlow.Proofs.Rebuild.Arranged
import Mathlib.Data.List.Perm.Basic

/-!
# Loading without the unknown effects

Effects that the registry does not know are left out when a document is loaded.  *Pruning* takes
them out beforehand, at every depth, and leaves the other nodes as they stand (`Compiler.pruned`).
It changes no plan (`Compiler.orderedPlans_pruned`), so a document and its pruned nodes are loaded
as the same program.

In this program every node that pruning leaves has a block of its own (`Compiler.BlockFor`), and a
list of nodes is a chain of their blocks in ascending order (`Compiler.ChainFor`): the top level
from the head of the program, and a branch from the slot of its gate.
-/

namespace EffectFlow

open Json (Value)

/-! ## Sorting by order -/

/-- The second list has the nodes of the first in ascending order, and nodes of one order stand as
they stood. -/
structure StablySorted (nodes sorted : List Node) : Prop where
  /-- No node is lost, and none comes twice. -/
  perm : sorted.Perm nodes
  /-- The orders ascend. -/
  ascending : sorted.Pairwise fun m n => m.order ≤ n.order
  /-- The nodes of one order stand as they stood. -/
  stable : ∀ order, sorted.filter (·.order == order) = nodes.filter (·.order == order)

/-- Insertion sort is stable: nodes of one order ascend as they stand, so they stay in place. -/
theorem stablySorted_insertionSort (nodes : List Node) :
    StablySorted nodes (nodes.insertionSort fun m n => m.order ≤ n.order) := by
  have total : Std.Total fun m n : Node => m.order ≤ n.order := ⟨fun m n => UInt32.le_total _ _⟩
  have transitive : IsTrans Node fun m n => m.order ≤ n.order := ⟨fun _ _ _ => UInt32.le_trans⟩
  have perm := List.perm_insertionSort (fun m n : Node => m.order ≤ n.order) nodes
  refine ⟨perm, List.pairwise_insertionSort _ nodes, fun order => ?_⟩
  have level : (nodes.filter (·.order == order)).Pairwise fun m n => m.order ≤ n.order := by
    refine List.pairwise_of_forall_mem_list fun m mem n mem' => ?_
    rw [eq_of_beq (List.mem_filter.1 mem).2, eq_of_beq (List.mem_filter.1 mem').2]
    exact UInt32.le_refl order
  have kept := (List.sublist_insertionSort level List.filter_sublist).filter (·.order == order)
  rw [List.filter_filter] at kept
  simp only [Bool.and_self] at kept
  exact (kept.eq_of_length (perm.filter _).length_eq.symm).symm

namespace Compiler

/-! ## Pruning -/

mutual

/-- A node without the unknown effects below it, if it is no unknown effect itself. -/
def prune (c : Compiler) : Node → Option Node
  | .effect id params order trigger chance =>
    (c.registry.tag? id).map fun _ => .effect id params order trigger chance
  | .gate type params order onPass onFail =>
    some (.gate type params order (pruned c onPass) (pruned c onFail))
termination_by structural node => node

/-- The nodes without the unknown effects among them, at any depth. -/
def pruned (c : Compiler) : List Node → List Node
  | [] => []
  | n :: rest =>
    match prune c n with
    | some m => m :: pruned c rest
    | none => pruned c rest
termination_by structural nodes => nodes

end

variable {c : Compiler}

theorem order_of_prune {n m : Node} (kept : c.prune n = some m) : m.order = n.order := by
  cases n with
  | effect =>
    obtain ⟨tag, known, rfl⟩ := Option.map_eq_some_iff.1 kept
    rfl
  | gate =>
    cases kept
    rfl

mutual

/-- Pruning changes no plan. -/
theorem plan?_prune : ∀ n : Node, (c.prune n).bind c.plan? = c.plan? n
  | .effect id params order trigger chance => by
    rw [prune, plan?]
    cases known : c.registry.tag? id with
    | none => rfl
    | some tag => rw [Option.map_some, Option.bind_some, plan?, known]
  | .gate type params order onPass onFail => by
    rw [prune, Option.bind_some, plan?, plan?, orderedPlans_pruned onPass,
      orderedPlans_pruned onFail]

/-- Pruned nodes have the same plans. -/
theorem orderedPlans_pruned : ∀ nodes : List Node,
    c.orderedPlans (c.pruned nodes) = c.orderedPlans nodes
  | [] => rfl
  | n :: rest => by
    have here := plan?_prune n
    have later := orderedPlans_pruned rest
    rw [pruned]
    cases kept : c.prune n with
    | none =>
      rw [kept, Option.bind_none] at here
      rw [orderedPlans, ← here]
      exact later
    | some m =>
      rw [kept, Option.bind_some] at here
      simp only [orderedPlans]
      rw [here, later, order_of_prune kept]

end

mutual

/-- What is left of a sound node is sound. -/
theorem sound_of_prune : ∀ {n m : Node}, n.Sound → c.prune n = some m → m.Sound
  | .effect id params order trigger chance, m, sound, kept => by
    obtain ⟨tag, known, rfl⟩ := Option.map_eq_some_iff.1 kept
    exact sound
  | .gate type params order onPass onFail, m, ⟨free, soundPass, soundFail⟩, kept => by
    cases kept
    exact ⟨free, soundAll_pruned soundPass, soundAll_pruned soundFail⟩

theorem soundAll_pruned : ∀ {nodes : List Node}, Node.SoundAll nodes →
    Node.SoundAll (c.pruned nodes)
  | [], _ => trivial
  | n :: rest, ⟨sound, soundRest⟩ => by
    rw [pruned]
    cases kept : c.prune n with
    | none => exact soundAll_pruned soundRest
    | some m => exact ⟨sound_of_prune sound kept, soundAll_pruned soundRest⟩

end

/-! ## Blocks of nodes -/

mutual

/-- The block is planned from the node, and its slots lead to chains of the branches. -/
inductive BlockFor (c : Compiler) (p : Program) : Handle → Node → Prop
  | effect {h : Handle} {b : Block} {id order : UInt32} {params : Dict Value}
      {trigger : Option Trigger} {chance : UInt8} (there : p.block? h = some b)
      (planned : c.PlannedFrom (.effect id params order trigger chance) b) (slots : b.slots = ∅) :
      BlockFor c p h (.effect id params order trigger chance)
  | gate {h : Handle} {b : Block} {type : GateKind} {params : Dict Value} {order : UInt32}
      {onPass onFail : List Node} (there : p.block? h = some b)
      (planned : c.PlannedFrom (.gate type params order onPass onFail) b)
      (pass : ChainFor c p (b.slots.get? Branch.onPass.key) onPass)
      (fail : ChainFor c p (b.slots.get? Branch.onFail.key) onFail) :
      BlockFor c p h (.gate type params order onPass onFail)

/-- The chain from the head, if there is one, has the blocks of the nodes in ascending order, and
those of one order as they stand. -/
inductive ChainFor (c : Compiler) (p : Program) : Option Handle → List Node → Prop
  | empty : ChainFor c p none []
  | headed {head : Handle} {nodes sorted : List Node} (stable : StablySorted nodes sorted)
      (blocks : List.Forall₂ (BlockFor c p) (p.chain head) sorted) :
      ChainFor c p (some head) nodes

end

variable {p : Program}

theorem BlockFor.exists_tag {h : Handle} {n : Node} (block : c.BlockFor p h n) :
    ∃ tag, p.tag? h = some tag ∧ c.tagOf? n = some tag := by
  cases block with
  | effect there planned slots => exact ⟨_, Program.tag?_of_block? there, planned.tag⟩
  | gate there planned pass fail => exact ⟨_, Program.tag?_of_block? there, planned.tag⟩

theorem map_tag?_of_forall₂ {handles : List Handle} {nodes : List Node}
    (blocks : List.Forall₂ (c.BlockFor p) handles nodes) :
    (handles.filterMap p.tag?).map some = nodes.map c.tagOf? := by
  induction blocks with
  | nil => rfl
  | cons block _ ih =>
    obtain ⟨tag, there, tag_eq⟩ := block.exists_tag
    rw [List.filterMap_cons, there, List.map_cons, List.map_cons, tag_eq, ih]

/-- The tags along a chain are those of its nodes in ascending order. -/
theorem ChainFor.exists_tagsFrom {head : Option Handle} {nodes : List Node}
    (chain : c.ChainFor p head nodes) :
    ∃ sorted, StablySorted nodes sorted ∧
      (head.toList.flatMap p.tagsFrom).map some = sorted.map c.tagOf? := by
  cases chain with
  | empty => exact ⟨[], ⟨.rfl, .nil, fun _ => rfl⟩, rfl⟩
  | @headed head _ sorted stable blocks =>
    refine ⟨sorted, stable, ?_⟩
    rw [Option.toList_some, List.flatMap_singleton]
    exact map_tag?_of_forall₂ blocks

/-- Wherever the plan is laid out, its first block is that of the node, and each of its blocks is
that of one node of the tree. -/
def Realises (c : Compiler) (p : Program) (n : Node) (plan : Plan) : Prop :=
  ∀ (start : Handle) (next : Option Handle), p.Holds start (Plan.layout start next plan) →
    c.BlockFor p start n ∧ ∃ handles, handles.Perm (List.range' start plan.size) ∧
      List.Forall₂ (c.BlockFor p) handles n.preorder

/-- Plans that realise nodes and are laid out give a block for each node, and one for each node
below. -/
theorem forall₂_blockFor {nodes : List Node} {plans : List Plan}
    (realised : List.Forall₂ (c.Realises p) nodes plans) {start : Handle}
    (holds : p.Holds start (Plan.layoutChain start plans)) :
    List.Forall₂ (c.BlockFor p) (Plan.heads start plans) nodes ∧
      ∃ handles, handles.Perm (List.range' start (Plan.sizes plans)) ∧
        List.Forall₂ (c.BlockFor p) handles (Node.preorderAll nodes) := by
  induction realised generalizing start with
  | nil => exact ⟨.nil, [], .rfl, .nil⟩
  | @cons n plan nodes plans here _ ih =>
    obtain ⟨first, handles, perm, blocks⟩ := here start _ holds.firstPlan
    obtain ⟨others, handles', perm', blocks'⟩ := ih holds.laterPlans
    refine ⟨.cons first others, handles ++ handles', ?_, List.rel_append blocks blocks'⟩
    rw [Plan.sizes, ← List.range'_append_1]
    exact perm.append perm'

/-- Where the plans of some nodes are laid out in ascending order, there is a chain of the nodes. -/
theorem chainFor_of_realises {nodes sorted : List Node} {plans : List Plan}
    (stable : StablySorted nodes sorted) (realised : List.Forall₂ (c.Realises p) sorted plans)
    {start : Handle} (holds : p.Holds start (Plan.layoutChain start plans)) :
    c.ChainFor p (if plans = [] then none else some start) nodes ∧
      ∃ handles, handles.Perm (List.range' start (Plan.sizes plans)) ∧
        List.Forall₂ (c.BlockFor p) handles (Node.preorderAll nodes) := by
  obtain ⟨firsts, handles, perm, blocks⟩ := forall₂_blockFor realised holds
  constructor
  · split
    · next empty =>
      subst empty
      cases realised
      rw [stable.perm.symm.eq_nil]
      exact .empty
    · next nonempty =>
      refine .headed stable ?_
      rw [Program.chain_heads nonempty holds]
      exact firsts
  · -- The blocks stand in ascending order, and the nodes as in the document.
    have preorders : (Node.preorderAll nodes).Perm (Node.preorderAll sorted) := by
      rw [preorderAll_eq_flatMap, preorderAll_eq_flatMap]
      exact stable.perm.symm.flatMap_right _
    obtain ⟨handles', inStep, perm'⟩ := List.perm_comp_forall₂ preorders blocks.flip
    exact ⟨handles', perm'.trans perm, inStep.flip⟩

theorem realises_effect {id order : UInt32} {params : Dict Value} {trigger : Option Trigger}
    {chance : UInt8} {tag : String} (known : c.registry.tag? id = some tag) :
    c.Realises p (.effect id params order trigger chance)
      (.block tag (withTriggerAndChance (c.plannedFields tag params) trigger chance) [] []) := by
  intro start next holds
  obtain ⟨place, there⟩ := holds.firstBlock
  have block : c.BlockFor p start (.effect id params order trigger chance) :=
    .effect there ⟨known, fun name plain => get?_withTriggerAndChance _ _ _ plain⟩ rfl
  exact ⟨block, [start], .rfl, .cons block .nil⟩

/-- The plan of a gate realises the gate if its branches are realised in sorted order. -/
theorem realises_gate {type : GateKind} {params : Dict Value} {order : UInt32}
    {onPass onFail sortedPass sortedFail : List Node} {passPlans failPlans : List Plan}
    (stablePass : StablySorted onPass sortedPass) (stableFail : StablySorted onFail sortedFail)
    (pass : List.Forall₂ (c.Realises p) sortedPass passPlans)
    (fail : List.Forall₂ (c.Realises p) sortedFail failPlans) :
    c.Realises p (.gate type params order onPass onFail)
      (.block type.tag (c.plannedFields type.tag params) passPlans failPlans) := by
  intro start next holds
  obtain ⟨place, there⟩ := holds.firstBlock
  obtain ⟨passChain, handles, perm, blocks⟩ := chainFor_of_realises stablePass pass holds.passPlans
  obtain ⟨failChain, handles', perm', blocks'⟩ :=
    chainFor_of_realises stableFail fail holds.failPlans
  rw [← Plan.get?_passSlot] at passChain
  rw [← Plan.get?_failSlot] at failChain
  have block : c.BlockFor p start (.gate type params order onPass onFail) :=
    .gate there ⟨rfl, fun _ _ => rfl⟩ passChain failChain
  refine ⟨block, start :: (handles ++ handles'), ?_, .cons block (List.rel_append blocks blocks')⟩
  rw [Plan.size, Nat.add_comm, List.range'_succ, ← List.range'_append_1]
  exact .cons start (perm.append perm')

mutual

/-- A node is left by pruning exactly if it has a plan, and the plan realises what is left. -/
theorem rel_prune : ∀ n : Node,
    Option.Rel (fun m plan => m.order = n.order ∧ c.Realises p m plan) (c.prune n) (c.plan? n)
  | .effect id params order trigger chance => by
    rw [prune, plan?]
    cases known : c.registry.tag? id with
    | none => exact .none
    | some tag => exact .some ⟨rfl, realises_effect known⟩
  | .gate type params order onPass onFail => by
    rw [prune, plan?]
    refine .some ⟨rfl, realises_gate (stablySorted_insertionSort _)
      (stablySorted_insertionSort _) ?_ ?_⟩
    · exact List.forall₂_map_right_iff.2 ((forall₂_pruned onPass).imp fun _ _ both => both.2)
    · exact List.forall₂_map_right_iff.2 ((forall₂_pruned onFail).imp fun _ _ both => both.2)

/-- The pruned nodes, in ascending order, are in step with the plans. -/
theorem forall₂_pruned : ∀ nodes : List Node,
    List.Forall₂ (fun m e => m.order = e.1 ∧ c.Realises p m e.2)
      ((c.pruned nodes).insertionSort fun m n => m.order ≤ n.order) (c.orderedPlans nodes)
  | [] => .nil
  | n :: rest => by
    have here := rel_prune n
    have later := forall₂_pruned rest
    rw [pruned, orderedPlans]
    generalize c.prune n = kept at here ⊢
    generalize c.plan? n = made at here ⊢
    cases here with
    | none => exact later
    | some both =>
      rw [← both.1]
      exact forall₂_place both.2 later

end

/-! ## Documents -/

/-- Leaving the unknown effects out while a document is loaded is the same as pruning it before.
Every block of the program is that of one node of the pruned document.  The program has at most one
chain, which is that of the nodes of the top level, so their tags stand along it in ascending
order. -/
theorem rebuild_pruned (c : Compiler) (d : Document) :
    c.rebuild (.ofNodes (c.pruned d.lift)) = c.rebuild d ∧
      (c.rebuild d).blocks.length = Node.sizes (c.pruned d.lift) ∧
      (∃ handles, handles.Perm (List.range (c.rebuild d).blocks.length) ∧
        List.Forall₂ (c.BlockFor (c.rebuild d)) handles (Node.preorderAll (c.pruned d.lift))) ∧
      (c.rebuild d).chains.length ≤ 1 ∧
      c.ChainFor (c.rebuild d) (c.rebuild d).chains.head? (c.pruned d.lift) ∧
      ∃ sorted, StablySorted (c.pruned d.lift) sorted ∧
        ((c.rebuild d).chains.flatMap (c.rebuild d).tagsFrom).map some = sorted.map c.tagOf? := by
  have lifted : (Document.ofNodes (c.pruned d.lift)).lift = c.pruned d.lift :=
    Document.lift_ofNodes (soundAll_pruned (Entry.soundAll_liftAll _))
  have plans_eq : c.plans (c.pruned d.lift) = c.plans d.lift := by
    rw [plans, orderedPlans_pruned, plans]
  have realised : List.Forall₂ (c.Realises (c.rebuild d)) _ (c.plans d.lift) :=
    List.forall₂_map_right_iff.2 ((forall₂_pruned d.lift).imp fun _ _ both => both.2)
  obtain ⟨chain, handles, perm, blocks⟩ :=
    chainFor_of_realises (stablySorted_insertionSort _) realised (c.holds_rebuild d)
  rw [← List.range_eq_range', ← length_rebuild] at perm
  have chains : (c.rebuild d).chains = (if c.plans d.lift = [] then none else some 0).toList := by
    rw [chains_rebuild]
    split <;> rfl
  refine ⟨?_, ?_, ⟨handles, perm, blocks⟩, ?_, ?_, ?_⟩
  · rw [rebuild_eq, rebuild_eq, lifted, plans_eq]
  · rw [← Node.length_preorderAll, ← blocks.length_eq, perm.length_eq, List.length_range]
  · rw [chains]
    exact Option.length_toList_le
  · rw [chains, Option.head?_toList]
    exact chain
  · rw [chains]
    exact chain.exists_tagsFrom

end Compiler

end EffectFlow
