import EffectFlow.Proofs.Pipeline.Lifting
import EffectFlow.Proofs.Rebuild.Building
import EffectFlow.Proofs.Rebuild.Programs

/-!
# Shuffled documents

A document is *shuffled* if the items of its arrays change their places: those of the top level and
those of branches, at any depth, where a branch stands as a value among the parameters of a node
(`Items.Shuffled`).  The nodes that the items of a shuffled array lift to must have distinct orders.

Sorting the nodes of an array by distinct orders undoes the shuffling (`Node.sorted_perm`), so the
plans of the nodes stay the same (`Items.Shuffled.orderedPlans_eq`).  So a document and its shuffled
form are rebuilt to the same blocks, links and chain (`Compiler.rebuild_shuffled`).
-/

namespace EffectFlow

open Json (Value)

/-! ## Items -/

/-- The node that an item of a branch is lifted to, if it is one. -/
def liftItem? (v : Value) : Option Node :=
  match StoredNode.ofValue v with
  | .ok w => w.lift.toOption
  | .error _ => none

/-- The nodes that the items of a branch are lifted to; the others are left out. -/
def liftItems (items : List Value) : List Node := items.filterMap liftItem?

theorem toOption_lift_ofItem (key : String) (index : Nat) (v : Value) :
    (Entry.ofItem key index v).lift.toOption = liftItem? v := by
  rw [liftItem?]
  cases read : StoredNode.ofValue v with
  | ok w =>
    rw [Entry.ofItem_of_ok read]
    rfl
  | error fault =>
    rw [Entry.ofItem_of_error read, Entry.lift]
    rfl

theorem Entry.liftAll_eq_filterMap (entries : List Entry) :
    liftAll entries = entries.filterMap (·.lift.toOption) := by
  induction entries with
  | nil => rfl
  | cons entry rest ih =>
    rw [liftAll, ih, List.filterMap_cons]
    cases entry.lift <;> rfl

/-- The index of an item shows in errors alone. -/
theorem filterMap_mapIdx {read : Nat → Value → Entry} (items : List Value)
    (same : ∀ i v, (read i v).lift.toOption = liftItem? v) :
    (items.mapIdx read).filterMap (·.lift.toOption) = liftItems items := by
  rw [liftItems]
  induction items generalizing read with
  | nil => rfl
  | cons v rest ih =>
    have later : (rest.mapIdx fun i => read (i + 1)).filterMap (·.lift.toOption) =
        rest.filterMap liftItem? := ih fun i => same (i + 1)
    rw [List.mapIdx_cons, List.filterMap_cons, List.filterMap_cons, same, later]

theorem liftAll_mapIdx (key : String) (items : List Value) :
    Entry.liftAll (items.mapIdx (Entry.ofItem key)) = liftItems items := by
  rw [Entry.liftAll_eq_filterMap, filterMap_mapIdx items (toOption_lift_ofItem key)]

namespace StoredNode

/-- What a stored node is lifted to, with the items of its branches. -/
theorem toOption_lift (w : StoredNode) :
    w.lift.toOption =
      match w.head with
      | .error _ => none
      | .ok (order, .effect id) =>
        some (.effect id w.plainParams order (w.trigger.bind Trigger.ofName?) w.clampedChance)
      | .ok (order, .gate type) =>
        some (.gate type w.plainParams order (liftItems (w.items Branch.onPass.key))
          (liftItems (w.items Branch.onFail.key))) := by
  rw [lift, entry, Entry.lift, entries, entries, liftAll_mapIdx, liftAll_mapIdx]
  rcases w.head with error | ⟨order, id | type⟩ <;> rfl

/-- The two nodes have the same members, but for what stands in their branches. -/
structure Alike (w w' : StoredNode) : Prop where
  /-- The same effect. -/
  effectId : w.effectId = w'.effectId
  /-- The same gate. -/
  gateName : w.gateName = w'.gateName
  /-- The same order. -/
  order : w.order = w'.order
  /-- The same trigger. -/
  trigger : w.trigger = w'.trigger
  /-- The same chance. -/
  chance : w.chance = w'.chance
  /-- The same parameters, but for the branches. -/
  plainParams : w.plainParams = w'.plainParams

theorem Alike.head_eq {w w' : StoredNode} (alike : w.Alike w') : w.head = w'.head := by
  rw [head, head, kind, kind, alike.order, alike.effectId, alike.gateName]

end StoredNode

/-- The second list has the items of the first in other places, at any depth. -/
inductive Items.Shuffled : List Value → List Value → Prop
  /-- No items. -/
  | nil : Shuffled [] []
  /-- An item stays as it is. -/
  | same (v : Value) {items items' : List Value} (rest : Shuffled items items') :
    Shuffled (v :: items) (v :: items')
  /-- An item is a node, and the items of its branches are shuffled. -/
  | node {v v' : Value} {w w' : StoredNode} {items items' : List Value}
    (read : StoredNode.ofValue v = .ok w) (read' : StoredNode.ofValue v' = .ok w')
    (alike : w.Alike w')
    (branches : ∀ branch : Branch, Shuffled (w.items branch.key) (w'.items branch.key))
    (rest : Shuffled items items') :
    Shuffled (v :: items) (v' :: items')
  /-- The items change their places, where the nodes among them have distinct orders. -/
  | perm {items items' moved : List Value} (below : Shuffled items items')
    (places : items'.Perm moved) (distinct : ((liftItems moved).map Node.order).Nodup) :
    Shuffled items moved

/-- The second document has the items of the first in other places, at any depth. -/
def Document.Shuffled (d d' : Document) : Prop :=
  Items.Shuffled (d.nodes.map (·.toValue)) (d'.nodes.map (·.toValue))

/-- A document is lifted item by item. -/
theorem Document.lift_eq_liftItems (d : Document) :
    d.lift = liftItems (d.nodes.map (·.toValue)) := by
  rw [lift, entries, Entry.liftAll_eq_filterMap, liftItems, List.filterMap_map, List.filterMap_map]
  refine List.filterMap_congr fun w _ => ?_
  rw [Function.comp_apply, Function.comp_apply, liftItem?, StoredNode.ofValue_toValue]
  rfl

theorem Items.Shuffled.refl (items : List Value) : Shuffled items items := by
  induction items with
  | nil => exact .nil
  | cons v rest ih => exact .same v ih

/-! ## Sorting -/

/-- Nodes of distinct orders are sorted the same way wherever they stand. -/
theorem Node.sorted_perm {nodes nodes' : List Node} (perm : nodes.Perm nodes')
    (distinct : (nodes'.map Node.order).Nodup) : sorted nodes = sorted nodes' := by
  have sorts := stablySorted_insertionSort nodes
  have sorts' := stablySorted_insertionSort nodes'
  refine List.Perm.eq_of_pairwise ?_ sorts.ascending sorts'.ascending
    (sorts.perm.trans (perm.trans sorts'.perm.symm))
  intro m n mem mem' le ge
  have here : m ∈ nodes' := perm.mem_iff.1 (sorts.perm.mem_iff.1 mem)
  have there : n ∈ nodes' := sorts'.perm.mem_iff.1 mem'
  exact List.inj_on_of_nodup_map distinct here there (UInt32.le_antisymm le ge)

namespace Items.Shuffled

variable {c : Compiler}

/-- Two nodes that are alike and whose branches have the same plans have the same plan. -/
theorem rel_liftItem? {v v' : Value} {w w' : StoredNode} (read : StoredNode.ofValue v = .ok w)
    (read' : StoredNode.ofValue v' = .ok w') (alike : w.Alike w')
    (branches : ∀ branch : Branch, c.orderedPlans (liftItems (w.items branch.key)) =
      c.orderedPlans (liftItems (w'.items branch.key))) :
    Option.Rel (fun n n' => n.order = n'.order ∧ c.plan? n = c.plan? n')
      (liftItem? v) (liftItem? v') := by
  have chance : w.clampedChance = w'.clampedChance := by
    rw [StoredNode.clampedChance, StoredNode.clampedChance, alike.chance]
  simp only [liftItem?, read, read', StoredNode.toOption_lift, alike.head_eq]
  rcases w'.head with error | ⟨order, id | type⟩
  · exact .none
  · rw [alike.plainParams, alike.trigger, chance]
    exact .some ⟨rfl, rfl⟩
  · refine .some ⟨rfl, ?_⟩
    rw [Compiler.plan?, Compiler.plan?, alike.plainParams, branches, branches]

/-- Shuffled items have the same plans. -/
theorem orderedPlans_eq {items items' : List Value} (shuffled : Shuffled items items') :
    c.orderedPlans (liftItems items) = c.orderedPlans (liftItems items') := by
  induction shuffled with
  | nil => rfl
  | same v _ ih =>
    rw [liftItems, liftItems, List.filterMap_cons, List.filterMap_cons]
    cases liftItem? v with
    | none => exact ih
    | some n =>
      simp only [Compiler.orderedPlans]
      rw [← liftItems, ← liftItems, ih]
  | node read read' alike _ _ ihBranches ih =>
    have here := rel_liftItem? read read' alike ihBranches
    rw [liftItems, liftItems, List.filterMap_cons, List.filterMap_cons]
    generalize liftItem? _ = lifted at here ⊢
    generalize liftItem? _ = lifted' at here ⊢
    cases here with
    | none => exact ih
    | some both =>
      simp only [Compiler.orderedPlans, both.1, both.2]
      rw [← liftItems, ← liftItems, ih]
  | perm _ places distinct ih =>
    have sorts := Node.sorted_perm (places.filterMap liftItem?) distinct
    rw [ih, Compiler.orderedPlans_eq_filterMap, Compiler.orderedPlans_eq_filterMap, liftItems,
      sorts, liftItems]

end Items.Shuffled

/-! ## Documents -/

namespace Compiler

/-- A shuffled document is rebuilt to the same program, alone and in any program. -/
theorem rebuild_shuffled (c : Compiler) {d d' : Document} (shuffled : d.Shuffled d') :
    c.rebuild d = c.rebuild d' ∧ ∀ p : Program, c.rebuildInto d p = c.rebuildInto d' p := by
  have plans_eq : c.plans d.lift = c.plans d'.lift := by
    rw [plans, plans, d.lift_eq_liftItems, d'.lift_eq_liftItems,
      Items.Shuffled.orderedPlans_eq shuffled]
  refine ⟨?_, fun p => ?_⟩
  · rw [rebuild, rebuild, rebuildInto, rebuildInto, plans_eq]
  · rw [rebuildInto, rebuildInto, plans_eq]

/-- A gate before everything else. -/
def gateOver (onPass : List Node) : Node := .gate .chance ∅ 0 onPass []

/-- A gate over a summons and a script, and a script after the gate. -/
def straight : List Node :=
  [gateOver [.effect 7 ∅ 1 none 100, .effect 9 ∅ 2 none 75], .effect 9 ∅ 3 none 100]

/-- The same nodes, last to first in both lists. -/
def reversed : List Node :=
  [.effect 9 ∅ 3 none 100, gateOver [.effect 9 ∅ 2 none 75, .effect 7 ∅ 1 none 100]]

theorem rebuild_shuffled_straight :
    (Document.ofNodes straight).Shuffled (.ofNodes reversed) ∧
      twoEffects.rebuild (.ofNodes straight) = twoEffects.rebuild (.ofNodes reversed) ∧
      (twoEffects.rebuild (.ofNodes straight)).blocks.length = 4 := by
  have gates : Items.Shuffled
      [(gateOver [.effect 7 ∅ 1 none 100, .effect 9 ∅ 2 none 75]).lower.toValue,
        (Node.effect 9 ∅ 3 none 100).lower.toValue]
      [(gateOver [.effect 9 ∅ 2 none 75, .effect 7 ∅ 1 none 100]).lower.toValue,
        (Node.effect 9 ∅ 3 none 100).lower.toValue] := by
    refine .node (StoredNode.ofValue_toValue _) (StoredNode.ofValue_toValue _)
      ⟨rfl, rfl, rfl, rfl, rfl, by decide +kernel⟩ (fun branch => ?_) (.refl _)
    cases branch with
    | onPass => exact .perm (.refl _) (.swap _ _ _) (by decide +kernel)
    | onFail => exact .nil
  have shuffled : (Document.ofNodes straight).Shuffled (.ofNodes reversed) :=
    .perm gates (.swap _ _ _) (by decide +kernel)
  exact ⟨shuffled, (rebuild_shuffled twoEffects shuffled).1, by decide +kernel⟩

end Compiler

end EffectFlow
