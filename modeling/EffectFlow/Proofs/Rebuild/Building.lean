import EffectFlow.Proofs.Pipeline.Numbering
import EffectFlow.Proofs.Rebuild.Outlines
import EffectFlow.Proofs.Rebuild.Pruned

/-!
# Building block by block

A document can also be built with the operations of a program alone: a block is added for each node,
its fields are set, the nodes of its branches are built behind it, the blocks of a chain are linked,
and the head of a nested chain goes into the slot (`Compiler.build`).  The nodes of each list are
sorted by their orders first, and unknown effects are left out on the way.

Every operation works on a block that was added before, so what it leaves is the program from the
start with some blocks behind it (`Program.extend`).  These blocks are the layout of the plans of
the nodes (`Compiler.build_eq`, `Compiler.buildAll_eq`).  So building block by block and laying the
plans out at once are the same (`Compiler.buildInto_eq_rebuildInto`).
-/

namespace EffectFlow

open Json (Value)

/-! ## Blocks behind a program -/

namespace Program

/-- The program with some blocks behind its own. -/
def extend (p : Program) (blocks : List Block) : Program := { p with blocks := p.blocks ++ blocks }

/-- Sets fields of a block one after the other. -/
def setFields (p : Program) (h : Handle) (fields : Dict Value) : Program :=
  fields.entries.foldl (fun p e => p.setField h e.1 e.2) p

/-- Links the blocks of a nested chain and puts the first of them, if there is one, into the slot of
a branch. -/
def nest (p : Program) (h : Handle) (branch : Branch) (chain : List Handle) : Program :=
  match chain.head? with
  | some head => (p.link chain).setSlot h branch.key head
  | none => p.link chain

variable (p : Program)

theorem extend_nil : p.extend [] = p := by
  rw [extend, List.append_nil]

theorem extend_extend (front back : List Block) :
    (p.extend front).extend back = p.extend (front ++ back) := by
  simp only [extend, List.append_assoc]

theorem length_extend (blocks : List Block) :
    (p.extend blocks).blocks.length = p.blocks.length + blocks.length :=
  List.length_append

theorem addBlock_eq (tag : String) : p.addBlock tag = (p.blocks.length, p.extend [{ tag }]) := rfl

/-- The first block behind a program is changed where it stands. -/
theorem modifyBlock_extend (b : Block) (rest : List Block) (change : Block → Block) :
    (p.extend (b :: rest)).modifyBlock p.blocks.length change = p.extend (change b :: rest) := by
  have here := List.modifyTailIdx_add (List.modifyHead change) 0 p.blocks (b :: rest)
  rw [Nat.add_zero] at here
  rw [modifyBlock, extend, List.modify, here]
  rfl

theorem setField_extend (b : Block) (rest : List Block) (name : String) (value : Value) :
    (p.extend (b :: rest)).setField p.blocks.length name value =
      p.extend ({ b with fields := b.fields.insert name value } :: rest) :=
  p.modifyBlock_extend b rest _

theorem foldl_setField_extend (entries : List (String × Value)) (b : Block) :
    entries.foldl (fun q e => q.setField p.blocks.length e.1 e.2) (p.extend [b]) =
      p.extend [{ b with fields := entries.foldl (fun d e => d.insert e.1 e.2) b.fields }] := by
  induction entries generalizing b with
  | nil => rfl
  | cons e rest ih =>
    rw [List.foldl_cons, setField_extend, ih]
    rfl

/-- A new block gets the fields that are set one after the other. -/
theorem setFields_extend (tag : String) (fields : Dict Value) :
    (p.extend [{ tag }]).setFields p.blocks.length fields = p.extend [{ tag, fields }] := by
  have whole : fields.entries.foldl (fun d e => d.insert e.1 e.2) ∅ = fields :=
    fields.ofList_entries
  rw [setFields, foldl_setField_extend, whole]

end Program

namespace Plan

/-- The blocks of some plans, each for itself: none is linked to the next. -/
def layoutApart (start : Handle) : List Plan → List Block
  | [] => []
  | plan :: rest => plan.layout start none ++ layoutApart (start + plan.size) rest

/-- What follows a plan shows in its first block alone. -/
theorem exists_layout_eq_cons (plan : Plan) (start : Handle) :
    ∃ (b : Block) (rest : List Block),
      ∀ next, plan.layout start next = { b with next } :: rest := by
  obtain ⟨tag, fields, onPass, onFail⟩ := plan
  let slots := withSlot (withSlot ∅ .onPass (start + 1) onPass) .onFail
    (start + 1 + sizes onPass) onFail
  refine ⟨{ tag, fields, slots }, layoutChain (start + 1) onPass ++
    layoutChain (start + 1 + sizes onPass) onFail, fun next => ?_⟩
  rw [layout]

end Plan

namespace Program

/-- The first block of a plan is linked to a later one. -/
theorem connect_extend (p : Program) (plan : Plan) (rest : List Block) (target : Handle) :
    (p.extend (plan.layout p.blocks.length none ++ rest)).connect p.blocks.length target =
      p.extend (plan.layout p.blocks.length (some target) ++ rest) := by
  obtain ⟨b, below, layout_eq⟩ := plan.exists_layout_eq_cons p.blocks.length
  rw [layout_eq, layout_eq, List.cons_append, List.cons_append]
  exact p.modifyBlock_extend _ _ _

/-- Plans that were laid out apart become a chain when their first blocks are linked. -/
theorem link_layoutApart (plans : List Plan) (p : Program) :
    (p.extend (Plan.layoutApart p.blocks.length plans)).link (Plan.heads p.blocks.length plans) =
      p.extend (Plan.layoutChain p.blocks.length plans) := by
  induction plans generalizing p with
  | nil => rfl
  | cons plan rest ih =>
    cases rest with
    | nil => rfl
    | cons q qs =>
      have after : (p.extend (plan.layout p.blocks.length
          (some (p.blocks.length + plan.size)))).blocks.length = p.blocks.length + plan.size := by
        rw [length_extend, Plan.length_layout]
      have later := ih (p.extend (plan.layout p.blocks.length
        (some (p.blocks.length + plan.size))))
      rw [after, extend_extend, extend_extend] at later
      rw [Plan.layoutApart, Plan.heads, Plan.heads, link, connect_extend, Plan.layoutChain]
      exact later

/-- The blocks of a nested chain go behind those that are there, and the slot leads to the first. -/
theorem nest_extend (p : Program) (b : Block) (rest : List Block) (branch : Branch)
    (plans : List Plan) {start : Handle} (start_eq : start = p.blocks.length + (rest.length + 1)) :
    ((p.extend (b :: rest)).extend (Plan.layoutApart start plans)).nest p.blocks.length branch
        (Plan.heads start plans) =
      p.extend ({ b with slots := Plan.withSlot b.slots branch start plans } ::
        (rest ++ Plan.layoutChain start plans)) := by
  have here : start = (p.extend (b :: rest)).blocks.length := by
    rw [start_eq, length_extend, List.length_cons]
  have linked := link_layoutApart plans (p.extend (b :: rest))
  rw [← here, extend_extend _ (b :: rest) (Plan.layoutChain start plans), List.cons_append]
    at linked
  cases plans with
  | nil => exact linked
  | cons plan more =>
    have head : (Plan.heads start (plan :: more)).head? = some start := rfl
    simp only [nest, head]
    rw [linked]
    exact p.modifyBlock_extend b _ _

end Program

/-! ## Sorted nodes -/

namespace Node

/-- The nodes in ascending order, those of one order as they stand. -/
def sorted (nodes : List Node) : List Node := nodes.insertionSort fun m n => m.order ≤ n.order

theorem sizes_perm {nodes nodes' : List Node} (perm : nodes.Perm nodes') :
    sizes nodes = sizes nodes' := by
  induction perm with
  | nil => rfl
  | cons n _ ih => rw [sizes, sizes, ih]
  | swap m n rest =>
    simp only [sizes]
    omega
  | trans _ _ ih ih' => rw [ih, ih']

theorem sizes_sorted (nodes : List Node) : sizes (sorted nodes) = sizes nodes :=
  sizes_perm (stablySorted_insertionSort nodes).perm

end Node

/-- A plan of the least order goes first. -/
theorem Plan.place_of_forall_le {order : UInt32} {plan : Plan} {ordered : List (UInt32 × Plan)}
    (least : ∀ e ∈ ordered, order ≤ e.1) :
    Plan.place order plan ordered = (order, plan) :: ordered := by
  cases ordered with
  | nil => rfl
  | cons e rest => rw [Plan.place, if_pos (least e List.mem_cons_self)]

namespace Compiler

/-- The plan of a node with the order of the node. -/
def orderedPlan? (c : Compiler) (n : Node) : Option (UInt32 × Plan) :=
  (c.plan? n).map fun plan => (n.order, plan)

variable {c : Compiler}

theorem orderedPlan?_of_none {n : Node} (unknown : c.plan? n = none) : c.orderedPlan? n = none := by
  rw [orderedPlan?, unknown, Option.map_none]

theorem orderedPlan?_of_some {n : Node} {plan : Plan} (made : c.plan? n = some plan) :
    c.orderedPlan? n = some (n.order, plan) := by
  rw [orderedPlan?, made, Option.map_some]

/-- Plans have the orders of their nodes, so none is below a bound of all nodes. -/
theorem le_of_mem_filterMap_orderedPlan? {order : UInt32} {nodes : List Node}
    (least : ∀ n ∈ nodes, order ≤ n.order) : ∀ e ∈ nodes.filterMap c.orderedPlan?, order ≤ e.1 := by
  intro e mem
  obtain ⟨n, n_mem, made⟩ := List.mem_filterMap.1 mem
  obtain ⟨plan, -, rfl⟩ := Option.map_eq_some_iff.1 made
  exact least n n_mem

theorem filterMap_orderedInsert_of_none {n : Node} (unknown : c.plan? n = none)
    (nodes : List Node) :
    (nodes.orderedInsert (fun m n => m.order ≤ n.order) n).filterMap c.orderedPlan? =
      nodes.filterMap c.orderedPlan? := by
  have left := orderedPlan?_of_none unknown
  induction nodes with
  | nil => rw [List.orderedInsert_nil, List.filterMap_cons_none left]
  | cons m rest ih =>
    rw [List.orderedInsert_cons]
    split
    · rw [List.filterMap_cons_none left]
    · simp only [List.filterMap_cons, ih]

/-- A node that goes to its place among sorted nodes takes its plan to its place among the plans. -/
theorem filterMap_orderedInsert {n : Node} {plan : Plan} (made : c.plan? n = some plan)
    {nodes : List Node} (ascending : nodes.Pairwise fun m n => m.order ≤ n.order) :
    (nodes.orderedInsert (fun m n => m.order ≤ n.order) n).filterMap c.orderedPlan? =
      Plan.place n.order plan (nodes.filterMap c.orderedPlan?) := by
  have kept := orderedPlan?_of_some made
  induction nodes with
  | nil => rw [List.orderedInsert_nil, List.filterMap_cons_some kept]; rfl
  | cons m rest ih =>
    have later := ih (List.Pairwise.of_cons ascending)
    rw [List.orderedInsert_cons]
    split
    · next first =>
      have least : ∀ k ∈ m :: rest, n.order ≤ k.order := by
        intro k mem
        rcases List.mem_cons.1 mem with rfl | mem
        · exact first
        · exact UInt32.le_trans first (List.rel_of_pairwise_cons ascending mem)
      rw [List.filterMap_cons_some kept,
        Plan.place_of_forall_le (le_of_mem_filterMap_orderedPlan? least)]
    · next notFirst =>
      cases planned : c.plan? m with
      | none =>
        have left := orderedPlan?_of_none planned
        rw [List.filterMap_cons_none left, List.filterMap_cons_none left, later]
      | some q =>
        have stays := orderedPlan?_of_some planned
        rw [List.filterMap_cons_some stays, List.filterMap_cons_some stays, later, Plan.place,
          if_neg notFirst]

/-- The plans of nodes are those of the sorted nodes, one after the other. -/
theorem orderedPlans_eq_filterMap (nodes : List Node) :
    c.orderedPlans nodes = (Node.sorted nodes).filterMap c.orderedPlan? := by
  induction nodes with
  | nil => rfl
  | cons n rest ih =>
    have ascending := (stablySorted_insertionSort rest).ascending
    rw [orderedPlans, ih, Node.sorted, Node.sorted, List.insertionSort_cons]
    cases made : c.plan? n with
    | none => rw [filterMap_orderedInsert_of_none made]
    | some plan => rw [filterMap_orderedInsert made ascending]

theorem plans_eq_filterMap (nodes : List Node) :
    c.plans nodes = (Node.sorted nodes).filterMap c.plan? := by
  rw [plans, orderedPlans_eq_filterMap, List.map_filterMap]
  congr 1
  funext n
  rw [orderedPlan?, Option.map_map]
  exact Option.map_id_apply

/-! ## Building -/

mutual

/-- Builds the block of a node, and the blocks of its branches behind it.  The result is the handle
of the block, if the registry knows the node, and the program. -/
def build (c : Compiler) (p : Program) : Node → Option Handle × Program
  | .effect id params _ trigger chance =>
    match c.registry.tag? id with
    | none => (none, p)
    | some tag =>
      let (h, p) := p.addBlock tag
      let p := p.setFields h (c.plannedFields tag params)
      let p := match trigger with
        | some t => p.setField h triggerKey (.text t.name)
        | none => p
      (some h, p.setField h chanceKey (chanceValue chance))
  | .gate type params _ onPass onFail =>
    let (h, p) := p.addBlock type.tag
    let p := p.setFields h (c.plannedFields type.tag params)
    let (passed, p) := buildAll c p (Node.sorted onPass)
    let p := p.nest h .onPass passed
    let (failed, p) := buildAll c p (Node.sorted onFail)
    (some h, p.nest h .onFail failed)
termination_by node => 2 * node.size
decreasing_by
  all_goals
    simp only [Node.sizes_sorted, Node.size]
    omega

/-- Builds the blocks of some nodes one after the other.  The result is the handles of those that
the registry knows, and the program. -/
def buildAll (c : Compiler) (p : Program) : List Node → List Handle × Program
  | [] => ([], p)
  | n :: rest =>
    let (built, p) := build c p n
    let (later, p) := buildAll c p rest
    (built.toList ++ later, p)
termination_by nodes => 2 * Node.sizes nodes + 1
decreasing_by
  · simp only [Node.sizes]
    omega
  · simp only [Node.sizes]
    have positive := n.one_le_size
    omega

end

/-- Builds the nodes of a document behind a program, links them and makes them a chain. -/
def buildInto (c : Compiler) (d : Document) (p : Program) : Option Handle × Program :=
  let (built, p) := c.buildAll p (Node.sorted d.lift)
  match built.head? with
  | some head => (some head, (p.link built).addChain head c.config.layoutOrigin)
  | none => (none, p.link built)

mutual

/-- Building a node lays its plan out behind the program. -/
theorem build_eq : ∀ (n : Node) (p : Program), c.build p n =
    match c.plan? n with
    | none => (none, p)
    | some plan => (some p.blocks.length, p.extend (plan.layout p.blocks.length none))
  | .effect id params order trigger chance, p => by
    rw [build, plan?]
    cases known : c.registry.tag? id with
    | none => rfl
    | some tag =>
      simp only [Program.addBlock_eq, Program.setFields_extend]
      cases trigger with
      | none =>
        simp only [Program.setField_extend]
        rfl
      | some t =>
        simp only [Program.setField_extend]
        rfl
  | .gate type params order onPass onFail, p => by
    have pass := buildAll_eq (Node.sorted onPass)
    have fail := buildAll_eq (Node.sorted onFail)
    rw [← plans_eq_filterMap] at pass fail
    rw [build, plan?]
    simp only [Program.addBlock_eq, Program.setFields_extend, pass]
    rw [Program.nest_extend p _ [] .onPass (c.plans onPass) (Program.length_extend p _)]
    simp only [fail]
    rw [Program.nest_extend p _ _ .onFail (c.plans onFail) (Program.length_extend p _)]
    have failStart : p.blocks.length + (Plan.sizes (c.plans onPass) + 1) =
        p.blocks.length + 1 + Plan.sizes (c.plans onPass) := by omega
    simp only [Program.length_extend, List.length_cons, List.length_nil, List.nil_append,
      Plan.length_layoutChain, Nat.zero_add, failStart]
    rw [Plan.layout]
    rfl
termination_by n => 2 * n.size
decreasing_by
  all_goals
    simp only [Node.sizes_sorted, Node.size]
    omega

/-- Building some nodes lays their plans out behind the program, one after the other. -/
theorem buildAll_eq : ∀ (nodes : List Node) (p : Program), c.buildAll p nodes =
    (Plan.heads p.blocks.length (nodes.filterMap c.plan?),
      p.extend (Plan.layoutApart p.blocks.length (nodes.filterMap c.plan?)))
  | [], p => by
    rw [buildAll]
    exact congrArg _ p.extend_nil.symm
  | n :: rest, p => by
    have here := build_eq n p
    rw [buildAll]
    cases made : c.plan? n with
    | none =>
      rw [made] at here
      rw [here, List.filterMap_cons_none made]
      exact buildAll_eq rest p
    | some plan =>
      rw [made] at here
      simp only [here, List.filterMap_cons_some made, buildAll_eq rest, Program.length_extend,
        Plan.length_layout, Program.extend_extend]
      rfl
termination_by nodes => 2 * Node.sizes nodes + 1
decreasing_by
  all_goals
    simp only [Node.sizes]
    have positive := n.one_le_size
    omega

end

/-- Building a document block by block and laying its plans out are the same. -/
theorem buildInto_eq_rebuildInto (c : Compiler) (d : Document) (p : Program) :
    c.buildInto d p = c.rebuildInto d p := by
  have built := buildAll_eq (c := c) (Node.sorted d.lift) p
  rw [← plans_eq_filterMap] at built
  rw [buildInto, rebuildInto, built]
  have linked := Program.link_layoutApart (c.plans d.lift) p
  cases made : c.plans d.lift with
  | nil => exact congrArg _ p.extend_nil
  | cons plan rest =>
    rw [made] at linked
    have head : (Plan.heads p.blocks.length (plan :: rest)).head? = some p.blocks.length := rfl
    simp only [head, linked]
    rfl

end Compiler

end EffectFlow
