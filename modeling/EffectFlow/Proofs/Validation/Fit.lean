import EffectFlow.Proofs.Compile.Orders
import EffectFlow.Proofs.Pipeline.Paths
import EffectFlow.Proofs.Validation.Errors
import Mathlib.Data.List.Nodup

/-!
# Validating nodes that are fit to be written

What is written of a *fit* node (`Node.Fit`) is *tidy* (`StoredNode.TidyGate`,
`StoredNode.TidyEffect`).  If a document is made of fit nodes with distinct orders, its problems are
those that the registry and the legacy table find with its effects, and one for each effect with the
placeholder (`Validator.problems_ofNodes`).  Only the latter are structural
(`Validator.filter_locatedProblems`).
-/

namespace EffectFlow

open Json (Value)

/-! ## Tidy nodes -/

namespace StoredNode

/-- A gate that always runs, without a trigger and with branches that can be read. -/
structure TidyGate (w : StoredNode) : Prop where
  kind : w.effectId = none ∧ ∃ type : GateKind, w.gateName = some type.name
  chance : w.chance = gateChance
  trigger : w.trigger = none
  branches : ∀ branch : Branch, ∃ items, w.items? branch.key = .ok items

/-- An effect with a percentage for a chance, a known trigger if any, and no branches. -/
structure TidyEffect (w : StoredNode) (id : UInt32) : Prop where
  kind : w.effectId = some (Int64.ofNat id.toNat) ∧ w.gateName = none
  chance : 0 ≤ w.chance.toInt ∧ w.chance.toInt ≤ 100
  trigger : ∀ name, w.trigger = some name → ∃ t : Trigger, t.name = name
  branches : BranchFree w.params

variable {w : StoredNode}

/-- The order is no problem if it is that of a node and none of the earlier ones. -/
theorem orderProblem?_eq_none {earlier : List Visit} {order : UInt32}
    (order_eq : w.order = storedOrder order) (new : w.order ∉ earlier.map Prod.fst) :
    w.orderProblem? earlier = none := by
  have notNegative : ¬w.order.toInt < 0 := by
    rw [order_eq, storedOrder, toInt_ofNat_word32]
    exact Int.not_lt.2 (Int.natCast_nonneg _)
  have unseen : earlier.find? (·.1 == w.order) = none := by
    refine List.find?_eq_none.2 fun visit mem same => new ?_
    exact List.mem_map.2 ⟨visit, mem, by simpa using same⟩
  rw [orderProblem?, if_neg notNegative, unseen]

theorem TidyGate.commonProblems_eq (tidy : w.TidyGate) {earlier : List Visit}
    (order : w.orderProblem? earlier = none) : w.commonProblems earlier = [] := by
  obtain ⟨noEffect, type, isGate⟩ := tidy.kind
  have kind : w.kindProblem? = none := by
    rw [kindProblem?, noEffect, isGate]
    simp [GateKind.ofName?_name]
  have chance : w.hasPercentage = true := by
    rw [hasPercentage, tidy.chance]
    decide
  rw [commonProblems, kind, chance, order]
  rfl

theorem TidyGate.gateProblems_eq (tidy : w.TidyGate) : w.gateProblems = [] := by
  simp [gateProblems, tidy.trigger, tidy.chance]

theorem TidyGate.branchProblem?_eq (tidy : w.TidyGate) (branch : Branch) :
    w.branchProblem? branch = none := by
  obtain ⟨items, found⟩ := tidy.branches branch
  rw [branchProblem?, found]

theorem TidyGate.legacyProblems_eq (tidy : w.TidyGate) : w.legacyProblems = [] := by
  rw [legacyProblems, tidy.kind.1]
  rfl

/-- The only common problem of a tidy effect is the placeholder. -/
theorem TidyEffect.commonProblems_eq {id : UInt32} (tidy : w.TidyEffect id) {earlier : List Visit}
    (order : w.orderProblem? earlier = none) :
    w.commonProblems earlier = if id = placeholderId then [.placeholder] else [] := by
  have kind : w.kindProblem? = if id = placeholderId then some .placeholder else none := by
    rw [kindProblem?, tidy.kind.1, tidy.kind.2]
    have notNegative : ¬(id.toNat : Int) < 0 := Int.not_lt.2 (Int.natCast_nonneg _)
    have zero : (id.toNat : Int) = 0 ↔ id = placeholderId := by
      rw [Int.natCast_eq_zero]
      exact UInt32.toNat_inj (b := placeholderId)
    simp only [toInt_ofNat_word32, if_neg notNegative, zero]
  have chance : w.hasPercentage = true := by
    rw [hasPercentage, Bool.and_eq_true, decide_eq_true_eq, decide_eq_true_eq]
    exact tidy.chance
  rw [commonProblems, kind, chance, order]
  split <;> rfl

theorem TidyEffect.effectProblems_eq {id : UInt32} (tidy : w.TidyEffect id) :
    w.effectProblems = [] := by
  have noBranch : (Branch.all.filter fun branch => w.params.contains branch.key) = [] := by
    refine List.filter_eq_nil_iff.2 fun branch _ => ?_
    simp [Dict.contains, tidy.branches branch]
  rw [effectProblems, noBranch]
  cases trigger : w.trigger with
  | none => rfl
  | some name =>
    obtain ⟨t, rfl⟩ := tidy.trigger name trigger
    simp [Trigger.ofName?_name]

end StoredNode

/-! ## Nodes that are fit to be written -/

namespace Node

/-- The node is written tidily. -/
def Fit : Node → Prop
  | effect _ params _ _ chance => BranchFree params ∧ chance.toNat ≤ 100
  | gate _ params _ _ _ => BranchFree params

/-- Is the node an effect with the placeholder? -/
def isUnloaded : Node → Bool
  | effect id _ _ _ _ => id == placeholderId
  | gate _ _ _ _ _ => false

theorem Fit.arrayFree {n : Node} (fit : n.Fit) : ArrayFree n.params := by
  cases n with
  | effect => exact fit.1.arrayFree
  | gate => exact BranchFree.arrayFree fit

theorem tidyEffect_lower {id order : UInt32} {params : Dict Value} {trigger : Option Trigger}
    {chance : UInt8} (fit : (effect id params order trigger chance).Fit) :
    (effect id params order trigger chance).lower.TidyEffect id where
  kind := ⟨rfl, rfl⟩
  chance := by
    show 0 ≤ (Int64.ofNat chance.toNat).toInt ∧ (Int64.ofNat chance.toNat).toInt ≤ 100
    rw [toInt_ofNat_byte]
    exact ⟨Int.natCast_nonneg _, Int.ofNat_le.2 fit.2⟩
  trigger := by
    intro name named
    obtain ⟨t, -, t_eq⟩ := Option.map_eq_some_iff.1 named
    exact ⟨t, t_eq⟩
  branches := fit.1

theorem tidyGate_lower {type : GateKind} {params : Dict Value} {order : UInt32}
    {onPass onFail : List Node} (fit : (gate type params order onPass onFail).Fit) :
    (gate type params order onPass onFail).lower.TidyGate where
  kind := ⟨rfl, type, rfl⟩
  chance := rfl
  trigger := rfl
  branches := by
    intro branch
    have free : params.get? branch.key = none := fit branch
    have found := get?_gateParams params (lowerAll onPass) (lowerAll onFail) branch.key
    rw [free] at found
    rw [StoredNode.items?, lower, found]
    split
    · next none => exact ⟨_, rfl⟩
    · next v some =>
      split at some
      · cases some
        exact ⟨_, by rw [Json.Value.view_array]⟩
      · split at some
        · cases some
          exact ⟨_, by rw [Json.Value.view_array]⟩
        · cases some

/-! ## Visits -/

mutual

/-- The visits of a lowered node are those of its nodes at their paths. -/
theorem visits_entry_lower : ∀ {n : Node} (path : NodePath), (∀ m ∈ n.preorder, m.Fit) →
    n.lower.entry.visits path = (n.located path).map fun x => (storedOrder x.2.order, x.1)
  | effect _ _ _ _ _, path, fit => by
    have here := fit _ List.mem_cons_self
    rw [entry_lower_effect here.1.arrayFree]
    rfl
  | gate type params order onPass onFail, path, fit => by
    rw [preorder, List.forall_mem_cons, List.forall_mem_append] at fit
    obtain ⟨here, pass, fail⟩ := fit
    rw [entry_lower_gate (BranchFree.arrayFree here), Entry.visits,
      visitsOf_entries_lowerAll _ 0 pass, visitsOf_entries_lowerAll _ 0 fail, located,
      List.map_cons, List.map_append]
    rfl

/-- The visits of lowered nodes are their orders and their paths. -/
theorem visitsOf_entries_lowerAll : ∀ {nodes : List Node} (path : Nat → NodePath) (index : Nat),
    (∀ m ∈ preorderAll nodes, m.Fit) →
      Entry.visitsOf path index ((lowerAll nodes).map (·.entry)) =
        (locatedAll path index nodes).map fun x => (storedOrder x.2.order, x.1)
  | [], _, _, _ => rfl
  | n :: rest, path, index, fit => by
    rw [preorderAll, List.forall_mem_append] at fit
    rw [lowerAll, List.map_cons, Entry.visitsOf, visits_entry_lower (path index) fit.1,
      visitsOf_entries_lowerAll path (index + 1) fit.2, locatedAll, List.map_append]

end

theorem map_fst_visits {n : Node} (path : NodePath) (fit : ∀ m ∈ n.preorder, m.Fit) :
    (n.lower.entry.visits path).map Prod.fst = n.orders.map storedOrder := by
  rw [visits_entry_lower path fit, ← map_order_preorder, ← map_snd_located n path, List.map_map,
    List.map_map, List.map_map]
  rfl

theorem map_fst_visitsOf {nodes : List Node} (path : Nat → NodePath) (index : Nat)
    (fit : ∀ m ∈ preorderAll nodes, m.Fit) :
    (Entry.visitsOf path index ((lowerAll nodes).map (·.entry))).map Prod.fst =
      (ordersOf nodes).map storedOrder := by
  rw [visitsOf_entries_lowerAll path index fit, ← map_order_preorderAll,
    ← map_snd_locatedAll nodes path index, List.map_map, List.map_map, List.map_map]
  rfl

end Node

/-! ## Problems of fit nodes -/

namespace Validator

/-- The problems of a node that is fit to be written. -/
def nodeProblems (v : Validator) : Node → List Problem
  | .effect id params order trigger chance =>
    (if id = placeholderId then [.placeholder] else []) ++
      schemaProblems v.registry (Node.effect id params order trigger chance).lower ++
      (if v.config.legacyChecks then
        (Node.effect id params order trigger chance).lower.legacyProblems
      else [])
  | .gate _ _ _ _ _ => []

/-- The problems of some nodes, each at the path of its node. -/
def locatedProblems (v : Validator) (nodes : List (NodePath × Node)) : List Located :=
  nodes.flatMap fun x => (v.nodeProblems x.2).map fun p => (x.1, p)

variable {v : Validator}

mutual

/-- The problems of a lowered node are those of its nodes at their paths. -/
theorem entryProblems_entry_lower : ∀ {n : Node} {path : NodePath} {earlier : List Visit},
    (∀ m ∈ n.preorder, m.Fit) → (earlier.map Prod.fst ++ n.orders.map storedOrder).Nodup →
      v.entryProblems path earlier n.lower.entry = v.locatedProblems (n.located path)
  | .effect id params order trigger chance, path, earlier, fit, distinct => by
    have here := fit _ List.mem_cons_self
    have tidy := Node.tidyEffect_lower here
    have new := StoredNode.orderProblem?_eq_none
      (w := (Node.effect id params order trigger chance).lower) rfl
      (List.disjoint_of_nodup_append distinct · List.mem_cons_self)
    rw [entry_lower_effect here.1.arrayFree, entryProblems, tidy.commonProblems_eq new,
      tidy.effectProblems_eq, tidy.kind.2, Node.located, locatedProblems, List.flatMap_singleton,
      nodeProblems, List.map_append, List.map_append]
    cases v.config.legacyChecks <;> rfl
  | .gate type params order onPass onFail, path, earlier, fit, distinct => by
    rw [Node.preorder, List.forall_mem_cons, List.forall_mem_append] at fit
    obtain ⟨here, fitPass, fitFail⟩ := fit
    have tidy := Node.tidyGate_lower here
    have new := StoredNode.orderProblem?_eq_none
      (w := (Node.gate type params order onPass onFail).lower) rfl
      (List.disjoint_of_nodup_append distinct · List.mem_cons_self)
    -- The nodes on pass come after the gate, and those on fail after them.
    have apart : ((earlier.map Prod.fst ++ [storedOrder order] ++
        (Node.ordersOf onPass).map storedOrder) ++
          (Node.ordersOf onFail).map storedOrder).Nodup := by
      simpa [Node.orders] using distinct
    have passApart : ((earlier ++ [(storedOrder order, path)]).map Prod.fst ++
        (Node.ordersOf onPass).map storedOrder).Nodup := by
      rw [List.map_append]
      exact List.Nodup.of_append_left apart
    have failApart : ((earlier ++ [(storedOrder order, path)] ++
        Entry.visitsOf (path.child .onPass) 0
          ((Node.lowerAll onPass).map (·.entry))).map Prod.fst ++
            (Node.ordersOf onFail).map storedOrder).Nodup := by
      rw [List.map_append, List.map_append, Node.map_fst_visitsOf _ 0 fitPass]
      exact apart
    have isGate : (Node.gate type params order onPass onFail).lower.gateName.isSome = true := rfl
    have order_eq : (Node.gate type params order onPass onFail).lower.order = storedOrder order :=
      rfl
    rw [entry_lower_gate (BranchFree.arrayFree here), entryProblems, tidy.commonProblems_eq new,
      if_pos isGate, tidy.gateProblems_eq, tidy.branchProblem?_eq, tidy.branchProblem?_eq,
      tidy.legacyProblems_eq, order_eq]
    simp only [Option.toList_none, List.map_nil, List.nil_append, List.append_nil, ite_self]
    rw [entriesProblems_entries_lowerAll fitPass passApart,
      entriesProblems_entries_lowerAll fitFail failApart, Node.located, locatedProblems,
      locatedProblems, locatedProblems, List.flatMap_cons, List.flatMap_append]
    rfl

/-- The problems of fit nodes with distinct orders. -/
theorem entriesProblems_entries_lowerAll : ∀ {nodes : List Node} {path : Nat → NodePath}
    {index : Nat} {earlier : List Visit}, (∀ m ∈ Node.preorderAll nodes, m.Fit) →
      (earlier.map Prod.fst ++ (Node.ordersOf nodes).map storedOrder).Nodup →
        v.entriesProblems path index earlier ((Node.lowerAll nodes).map (·.entry)) =
          v.locatedProblems (Node.locatedAll path index nodes)
  | [], _, _, _, _, _ => rfl
  | n :: rest, path, index, earlier, fit, distinct => by
    rw [Node.preorderAll, List.forall_mem_append] at fit
    rw [Node.ordersOf, List.map_append, ← List.append_assoc] at distinct
    have later : ((earlier ++ n.lower.entry.visits (path index)).map Prod.fst ++
        (Node.ordersOf rest).map storedOrder).Nodup := by
      rwa [List.map_append, Node.map_fst_visits (path index) fit.1]
    rw [Node.lowerAll, List.map_cons, entriesProblems,
      entryProblems_entry_lower fit.1 (List.Nodup.of_append_left distinct),
      entriesProblems_entries_lowerAll fit.2 later, Node.locatedAll, locatedProblems,
      locatedProblems, locatedProblems, List.flatMap_append]

end

/-! ## Layers of problems -/

theorem layer_of_referenceProblem? {registry : Registry} {params : Dict Value} {name : String}
    {kind : EntityKind} {u : Value} {p : Problem}
    (found : referenceProblem? registry params name kind u = some p) : p.layer = .schema := by
  simp only [referenceProblem?, Option.bind_eq_bind, Option.bind_eq_some_iff] at found
  obtain ⟨_, _, _, _, _, _, found⟩ := found
  split at found
  · cases found
    rfl
  · cases found

theorem layer_of_parameterProblem? {registry : Registry} {effect : String} {params : Dict Value}
    {name : String} {spec : Parameter} {p : Problem}
    (found : parameterProblem? registry effect params name spec = some p) : p.layer = .schema := by
  rw [parameterProblem?] at found
  split at found
  · split at found
    · cases found
      rfl
    · cases found
  · split at found
    · cases found
      rfl
    · obtain ⟨_, _, found⟩ := Option.bind_eq_some_iff.1 found
      exact layer_of_referenceProblem? found

/-- A problem with a schema is of the schema layer, and the registry is ready if there is one. -/
theorem of_mem_schemaProblems {registry : Registry} {w : StoredNode} {p : Problem}
    (mem : p ∈ schemaProblems registry w) : p.layer = .schema ∧ registry.isReady = true := by
  rw [schemaProblems] at mem
  split at mem
  · next ready =>
    refine ⟨?_, ready⟩
    split at mem
    · cases mem
    · split at mem
      · rw [List.mem_singleton.1 mem]
        rfl
      · obtain ⟨_, _, found⟩ := List.mem_filterMap.1 mem
        exact layer_of_parameterProblem? found
  · cases mem

/-- A problem with the legacy table is a warning of its layer. -/
theorem of_mem_legacyProblems {w : StoredNode} {p : Problem} (mem : p ∈ w.legacyProblems) :
    p.layer = .legacy ∧ p.severity = .warning := by
  rw [StoredNode.legacyProblems] at mem
  split at mem
  · obtain ⟨_, _, rfl⟩ := List.mem_map.1 mem
    exact ⟨rfl, rfl⟩
  · cases mem

/-- A fit node is unloaded, or the registry or the legacy table finds its problem. -/
theorem of_mem_nodeProblems {n : Node} {p : Problem} (mem : p ∈ v.nodeProblems n) :
    p = .placeholder ∨ p.layer = .schema ∧ v.registry.isReady = true ∨
      p.layer = .legacy ∧ p.severity = .warning := by
  cases n with
  | gate => cases mem
  | effect id params order trigger chance =>
    rw [nodeProblems, List.mem_append, List.mem_append] at mem
    rcases mem with (placeholder | schema) | legacy
    · split at placeholder
      · exact .inl (List.mem_singleton.1 placeholder)
      · cases placeholder
    · exact .inr (.inl (of_mem_schemaProblems schema))
    · split at legacy
      · exact .inr (.inr (of_mem_legacyProblems legacy))
      · cases legacy

theorem filter_nodeProblems (v : Validator) (n : Node) :
    (v.nodeProblems n).filter (·.layer = .structural) =
      if n.isUnloaded then [.placeholder] else [] := by
  cases n with
  | gate => rfl
  | effect id params order trigger chance =>
    have schema : (schemaProblems v.registry
        (Node.effect id params order trigger chance).lower).filter
          (·.layer = .structural) = [] := by
      refine List.filter_eq_nil_iff.2 fun p mem => ?_
      simp [(of_mem_schemaProblems mem).1]
    have legacy : ((if v.config.legacyChecks then
          (Node.effect id params order trigger chance).lower.legacyProblems
        else []) : List Problem).filter (·.layer = .structural) = [] := by
      refine List.filter_eq_nil_iff.2 fun p mem => ?_
      split at mem
      · simp [(of_mem_legacyProblems mem).1]
      · cases mem
    rw [nodeProblems, List.filter_append, List.filter_append, schema, legacy, Node.isUnloaded]
    by_cases unloaded : id = placeholderId <;> simp [unloaded, Problem.layer]

/-- The structural problems of fit nodes are those of the unloaded effects. -/
theorem filter_locatedProblems (v : Validator) (nodes : List (NodePath × Node)) :
    (v.locatedProblems nodes).filter (·.2.layer = .structural) =
      ((nodes.filter (·.2.isUnloaded)).map Prod.fst).map fun path => (path, .placeholder) := by
  induction nodes with
  | nil => rfl
  | cons x rest ih =>
    have here : ((v.nodeProblems x.2).map fun p => (x.1, p)).filter (·.2.layer = .structural) =
        ((v.nodeProblems x.2).filter (·.layer = .structural)).map fun p => (x.1, p) :=
      List.filter_map
    have step : v.locatedProblems (x :: rest) =
        (v.nodeProblems x.2).map (fun p => (x.1, p)) ++ v.locatedProblems rest := rfl
    rw [step, List.filter_append, ih, here, filter_nodeProblems]
    cases unloaded : x.2.isUnloaded <;> simp [unloaded]

/-! ## Reports -/

/-- A report lists the structural findings in their order if all of them are placeholders. -/
theorem filter_findings_validate {d : Document} {paths : List NodePath}
    (structural : (v.problems d).filter (·.2.layer = .structural) =
      paths.map fun path => (path, Problem.placeholder)) :
    (v.validate d).findings.filter (·.layer = .structural) =
      paths.map fun path => Problem.placeholder.finding path := by
  have listed : (v.findings d).filter (·.layer = .structural) =
      paths.map fun path => Problem.placeholder.finding path := by
    have all : v.findings d = (if v.registry.isReady then [] else [notLoaded]) ++
        (v.problems d).map fun x => x.2.finding x.1 := rfl
    have own : ((v.problems d).map fun x => x.2.finding x.1).filter (·.layer = .structural) =
        ((v.problems d).filter (·.2.layer = .structural)).map fun x => x.2.finding x.1 :=
      List.filter_map
    rw [all, List.filter_append, own, structural, List.map_map]
    split <;> rfl
  have errors : ∀ f ∈ (v.findings d).filter (·.layer = .structural), f.severity = .error := by
    intro f mem
    rw [listed] at mem
    obtain ⟨path, -, rfl⟩ := List.mem_map.1 mem
    rfl
  have inErrors : ((v.findings d).filter (·.severity = .error)).filter (·.layer = .structural) =
      (v.findings d).filter (·.layer = .structural) := by
    rw [List.filter_comm]
    exact List.filter_eq_self.2 fun f mem => by simpa using errors f mem
  have inWarnings :
      ((v.findings d).filter (·.severity ≠ .error)).filter (·.layer = .structural) = [] := by
    rw [List.filter_comm]
    exact List.filter_eq_nil_iff.2 fun f mem => by simpa using errors f mem
  calc (v.validate d).findings.filter (·.layer = .structural)
      = ((v.findings d).filter (·.severity = .error)).filter (·.layer = .structural) ++
          ((v.findings d).filter (·.severity ≠ .error)).filter (·.layer = .structural) :=
        List.filter_append _ _
    _ = paths.map fun path => Problem.placeholder.finding path := by
        rw [inErrors, inWarnings, List.append_nil, listed]

/-- The problems of a document of fit nodes with distinct orders. -/
theorem problems_ofNodes {nodes : List Node} (fit : ∀ n ∈ Node.preorderAll nodes, n.Fit)
    (distinct : ((Node.ordersOf nodes).map storedOrder).Nodup) :
    v.problems (Document.ofNodes nodes) = v.locatedProblems (Node.locatedAll .top 0 nodes) :=
  entriesProblems_entries_lowerAll fit distinct

end Validator

end EffectFlow
