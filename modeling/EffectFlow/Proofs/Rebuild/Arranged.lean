import EffectFlow.Proofs.Rebuild.Normalising
import Mathlib.Data.List.Sort

/-!
# Nodes as they are loaded

Loading *arranges* nodes: effects that the registry does not know are left out, and the nodes of
each list are put into ascending order, those of one order as they stood (`Compiler.arranged`).  No
other effect is lost and none comes twice (`Compiler.perm_arranged`).

A node is *rewritten* as another one if that is what a block planned from the first is compiled to
(`Compiler.Rewritten`).  Loading a document and compiling it at once rewrites the arranged nodes of
the document, one for one and in their order (`Compiler.forall₂_rewritten`).  So it says which node
of the result corresponds to a node of the document.
-/

namespace EffectFlow

open Json (Value)

namespace Compiler

/-! ## Arranging -/

mutual

/-- What loading keeps of a node: nothing of an unknown effect, and all of a gate. -/
def arrange (c : Compiler) : Node → Option Node
  | .effect id params order trigger chance =>
    (c.registry.tag? id).map fun _ => .effect id params order trigger chance
  | .gate type params order onPass onFail =>
    some (.gate type params order (arranged c onPass) (arranged c onFail))
termination_by structural node => node

/-- What loading keeps of some nodes, in ascending order. -/
def arranged (c : Compiler) : List Node → List Node
  | [] => []
  | n :: rest =>
    match arrange c n with
    | some m => List.orderedInsert (fun a b : Node => a.order ≤ b.order) m (arranged c rest)
    | none => arranged c rest
termination_by structural nodes => nodes

end

/-- Is the node an effect that the registry knows? -/
def isKnownEffect (c : Compiler) : Node → Bool
  | .effect id _ _ _ _ => (c.registry.tag? id).isSome
  | .gate _ _ _ _ _ => false

variable {c : Compiler}

theorem preorderAll_eq_flatMap (nodes : List Node) :
    Node.preorderAll nodes = nodes.flatMap Node.preorder := by
  induction nodes with
  | nil => rfl
  | cons n rest ih => rw [Node.preorderAll, ih, List.flatMap_cons]

mutual

/-- Arranging a node keeps its known effects. -/
theorem perm_arrange : ∀ n : Node,
    ((Node.preorderAll (c.arrange n).toList).filter (!·.isGate)).Perm
      (n.preorder.filter c.isKnownEffect)
  | .effect id params order trigger chance => by
    rw [arrange, Node.preorder]
    cases known : c.registry.tag? id with
    | none =>
      rw [List.filter_cons_of_neg (by simp [isKnownEffect, known])]
      exact .rfl
    | some tag =>
      rw [List.filter_cons_of_pos (by simp [isKnownEffect, known])]
      exact .rfl
  | .gate type params order onPass onFail => by
    rw [arrange, Node.preorder, List.filter_cons_of_neg (by simp [isKnownEffect]),
      List.filter_append]
    have branches := (perm_arranged onPass).append (perm_arranged onFail)
    rw [Option.toList_some, Node.preorderAll, Node.preorderAll, Node.preorder, List.append_nil,
      List.filter_cons_of_neg (by simp [Node.isGate]), List.filter_append]
    exact branches

/-- The effects of arranged nodes, at any depth, are the known ones, each as often as before. -/
theorem perm_arranged : ∀ nodes : List Node,
    ((Node.preorderAll (c.arranged nodes)).filter (!·.isGate)).Perm
      ((Node.preorderAll nodes).filter c.isKnownEffect)
  | [] => .rfl
  | n :: rest => by
    have here := perm_arrange n
    have later := perm_arranged rest
    rw [arranged, Node.preorderAll, List.filter_append]
    cases kept : c.arrange n with
    | none =>
      rw [kept] at here
      rw [here.symm.eq_nil]
      exact later
    | some m =>
      rw [kept, Option.toList_some, Node.preorderAll, Node.preorderAll, List.append_nil] at here
      have placed : (Node.preorderAll (List.orderedInsert (fun a b : Node => a.order ≤ b.order) m
          (c.arranged rest))).Perm (m.preorder ++ Node.preorderAll (c.arranged rest)) := by
        rw [preorderAll_eq_flatMap, preorderAll_eq_flatMap, ← List.flatMap_cons]
        exact (List.perm_orderedInsert _ m _).flatMap_right _
      refine (placed.filter _).trans ?_
      rw [List.filter_append]
      exact here.append later

end

/-! ## Rewriting -/

/-- The second node is what a block that is planned from the first is compiled to. -/
inductive Rewritten (c : Compiler) : Node → Node → Prop
  | effect {id order order' : UInt32} {params : Dict Value} {trigger : Option Trigger}
      {chance : UInt8} {b : Block}
      (planned : c.PlannedFrom (.effect id params order trigger chance) b) :
      c.Rewritten (.effect id params order trigger chance)
        (.effect id (c.blockParams b) order' (blockTrigger? b) (blockChance b))
  | gate {type : GateKind} {order order' : UInt32} {params : Dict Value}
      {onPass onFail onPass' onFail' : List Node} {b : Block}
      (planned : c.PlannedFrom (.gate type params order onPass onFail) b) :
      c.Rewritten (.gate type params order onPass onFail)
        (.gate type (c.blockParams b) order' onPass' onFail')

/-- The parameters of the second node are those of a block that is planned from the first. -/
theorem Rewritten.exists_planned {n m : Node} (rewritten : c.Rewritten n m) :
    ∃ b, c.PlannedFrom n b ∧ m.params = c.blockParams b := by
  cases rewritten with
  | effect planned => exact ⟨_, planned, rfl⟩
  | gate planned => exact ⟨_, planned, rfl⟩

/-- Wherever the plan is laid out, the node and those below it are rewritten. -/
def Yields (c : Compiler) (n : Node) (plan : Plan) : Prop :=
  ∀ (p : Program) (start : Handle) (next : Option Handle) (k : Nat),
    p.Holds start (Plan.layout start next plan) →
      List.Forall₂ c.Rewritten n.preorder
        (Node.preorderAll (c.node? p k (plan.outline start)).toList)

/-- Wherever plans are laid out in a chain, their nodes and those below are rewritten. -/
theorem forall₂_of_yields {ns : List Node} {plans : List Plan}
    (yields : List.Forall₂ c.Yields ns plans) (p : Program) (start : Handle) (k : Nat)
    (holds : p.Holds start (Plan.layoutChain start plans)) :
    List.Forall₂ c.Rewritten (Node.preorderAll ns)
      (Node.preorderAll (c.nodes p k (Plan.outlines start plans))) := by
  induction yields generalizing start k with
  | nil => exact .nil
  | @cons n plan ns plans here _ ih =>
    have first := here p start _ k holds.firstPlan
    rw [Plan.outlines, nodes]
    cases made : c.node? p k (plan.outline start) with
    | none =>
      rw [made] at first
      exact List.rel_append first (ih _ k holds.laterPlans)
    | some m =>
      rw [made, Option.toList_some, Node.preorderAll, Node.preorderAll, List.append_nil] at first
      exact List.rel_append first (ih _ _ holds.laterPlans)

/-- A known effect yields the block that is planned for it. -/
theorem yields_effect {id order : UInt32} {params : Dict Value} {trigger : Option Trigger}
    {chance : UInt8} {tag : String} (known : c.registry.tag? id = some tag) :
    c.Yields (.effect id params order trigger chance)
      (.block tag (withTriggerAndChance (c.plannedFields tag params) trigger chance) [] []) := by
  intro p start next k holds
  obtain ⟨b, there, tag_eq, fields_eq⟩ := exists_block holds
  have made : c.node? p k (.plain start tag) =
      some (.effect id (c.blockParams b) (UInt32.ofNat k) (blockTrigger? b) (blockChance b)) := by
    rw [node?, there, effectId?_of_tag? known]
  rw [Plan.outline, Registry.ofTag?_eq_none_of_tag? known]
  simp only [made]
  refine .cons (.effect ⟨?_, fun name plain => ?_⟩) .nil
  · rw [tag_eq]
    exact known
  · rw [fields_eq, tag_eq]
    exact get?_withTriggerAndChance _ _ _ plain

/-- A gate yields its block, and the blocks below it as its branches do. -/
theorem yields_gate {type : GateKind} {params : Dict Value} {order : UInt32}
    {onPass onFail : List Node} {passPlans failPlans : List Plan}
    (pass : List.Forall₂ c.Yields onPass passPlans)
    (fail : List.Forall₂ c.Yields onFail failPlans) :
    c.Yields (.gate type params order onPass onFail)
      (.block type.tag (c.plannedFields type.tag params) passPlans failPlans) := by
  intro p start next k holds
  obtain ⟨b, there, tag_eq, fields_eq⟩ := exists_block holds
  rw [Plan.outline, GateKind.ofTag?_tag]
  simp only [node?, there]
  rw [Option.toList_some, Node.preorderAll, Node.preorderAll, List.append_nil, Node.preorder,
    Node.preorder]
  refine .cons (.gate ⟨?_, fun name _ => ?_⟩) (List.rel_append ?_ ?_)
  · rw [tag_eq]
    rfl
  · rw [fields_eq, tag_eq]
    rfl
  · exact forall₂_of_yields pass p _ _ holds.passPlans
  · exact forall₂_of_yields fail p _ _ holds.failPlans

/-! ## Documents -/

/-- Nodes and plans in step stay so if one of each is put in its place. -/
theorem forall₂_place {R : Node → Plan → Prop} {m : Node} {plan : Plan} {ms : List Node}
    {ordered : List (UInt32 × Plan)} (here : R m plan)
    (rest : List.Forall₂ (fun m e => m.order = e.1 ∧ R m e.2) ms ordered) :
    List.Forall₂ (fun m e => m.order = e.1 ∧ R m e.2)
      (List.orderedInsert (fun a b : Node => a.order ≤ b.order) m ms)
      (Plan.place m.order plan ordered) := by
  induction rest with
  | nil => exact .cons ⟨rfl, here⟩ .nil
  | @cons first e ms ordered both rest ih =>
    obtain ⟨o, q⟩ := e
    rw [List.orderedInsert_cons, Plan.place, both.1]
    split
    · exact .cons ⟨rfl, here⟩ (.cons both rest)
    · exact .cons both ih

mutual

/-- A node is kept exactly if it has a plan, and what is kept of it is rewritten. -/
theorem rel_arrange : ∀ n : Node,
    Option.Rel (fun m plan => m.order = n.order ∧ c.Yields m plan) (c.arrange n) (c.plan? n)
  | .effect id params order trigger chance => by
    rw [arrange, plan?]
    cases known : c.registry.tag? id with
    | none => exact .none
    | some tag => exact .some ⟨rfl, yields_effect known⟩
  | .gate type params order onPass onFail => by
    rw [arrange, plan?]
    refine .some ⟨rfl, yields_gate ?_ ?_⟩
    · exact List.forall₂_map_right_iff.2 ((forall₂_arranged onPass).imp fun _ _ both => both.2)
    · exact List.forall₂_map_right_iff.2 ((forall₂_arranged onFail).imp fun _ _ both => both.2)

/-- The arranged nodes are in step with the plans. -/
theorem forall₂_arranged : ∀ nodes : List Node,
    List.Forall₂ (fun m e => m.order = e.1 ∧ c.Yields m e.2) (c.arranged nodes)
      (c.orderedPlans nodes)
  | [] => .nil
  | n :: rest => by
    have here := rel_arrange n
    have later := forall₂_arranged rest
    rw [arranged, orderedPlans]
    generalize c.arrange n = kept at here ⊢
    generalize c.plan? n = made at here ⊢
    cases here with
    | none => exact later
    | some both =>
      rw [← both.1]
      exact forall₂_place both.2 later

end

/-- Loading a document and compiling it at once rewrites its arranged nodes, one for one. -/
theorem forall₂_rewritten (c : Compiler) (d : Document) :
    List.Forall₂ c.Rewritten (Node.preorderAll (c.arranged d.lift))
      (Node.preorderAll (c.compile (c.rebuild d)).nodes) := by
  have inStep : List.Forall₂ c.Yields (c.arranged d.lift) (c.plans d.lift) :=
    List.forall₂_map_right_iff.2 ((forall₂_arranged d.lift).imp fun _ _ both => both.2)
  rw [compile, outline_rebuild]
  exact forall₂_of_yields inStep _ 0 0 (c.holds_rebuild d)

/-- In a document of one known effect, what holds of the nodes in step holds of this effect and one
node. -/
theorem exists_of_forall₂_arranged {n : Node} {R : Node → Node → Prop} {ms : List Node}
    (sound : n.Sound) (known : c.isKnownEffect n = true) (related : List.Forall₂ R
      (Node.preorderAll (c.arranged (Document.ofNodes [n]).lift)) ms) :
    ∃ m, ms = [m] ∧ R n m := by
  have lifted : (Document.ofNodes [n]).lift = [n] := Document.lift_ofNodes ⟨sound, trivial⟩
  rw [lifted] at related
  cases n with
  | gate => cases known
  | effect id params order trigger chance =>
    obtain ⟨tag, tag_eq⟩ := Option.isSome_iff_exists.1 known
    rw [arranged, arrange, tag_eq] at related
    obtain ⟨m, rest, here, last, rfl⟩ := List.forall₂_cons_left_iff.1 related
    rw [List.forall₂_nil_left_iff.1 last]
    exact ⟨m, rfl, here⟩

end Compiler

end EffectFlow
