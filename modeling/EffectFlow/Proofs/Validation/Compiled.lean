import EffectFlow.Proofs.Validation.Fit

/-!
# Validating compiled documents

With the built-in rules, what is compiled of a block is fit to be written
(`Compiler.BuiltFrom.fit`).  So a compiled document is tidy but for the effects with the
placeholder, and no validator has another structural problem with it
(`Compiler.validate_document`).
-/

namespace EffectFlow

open Json (Value)

/-! ## Tidy documents -/

/-- The order of a node. -/
def Entry.order? : Entry → Option Int64
  | .node w _ _ => some w.order
  | .unreadable _ => none

/-- Orders are distinct and all entries are tidy nodes.  The effects at the paths, and no others,
have the placeholder. -/
structure Document.TidyBut (d : Document) (paths : List NodePath) : Prop where
  orders : d.orders.Nodup
  entries : ∀ path e, d.entry? path = some e → ∃ w onPass onFail, e = .node w onPass onFail ∧
    (w.TidyGate ∨ ∃ id, w.TidyEffect id ∧ (id = placeholderId ↔ path ∈ paths))

namespace Node

variable {nodes : List Node}

theorem nodup_orders (numbered : NumberedAll 0 nodes) (small : sizes nodes < words32) :
    ((ordersOf nodes).map storedOrder).Nodup := by
  rw [numbered.map_storedOrder (Nat.le_of_lt small)]
  refine List.Nodup.map_on ?_ List.nodup_range
  intro a aMem b bMem same
  have bound : ∀ k ∈ List.range (sizes nodes), k < 2 ^ 63 := by
    intro k mem
    have below : k < words32 := Nat.lt_trans (List.mem_range.1 mem) small
    exact Nat.lt_trans below (by decide)
  have ints := congrArg Int64.toInt same
  rw [Int64.toInt_ofNat_of_lt (bound a aMem), Int64.toInt_ofNat_of_lt (bound b bMem)] at ints
  exact Int.ofNat.inj ints

/-- Nodes with distinct orders stand at distinct paths. -/
theorem nodup_paths (fit : ∀ n ∈ preorderAll nodes, n.Fit)
    (distinct : ((ordersOf nodes).map storedOrder).Nodup) :
    ((locatedAll .top 0 nodes).map Prod.fst).Nodup := by
  refine List.Nodup.of_map
    (fun path => (Document.entry? (Document.ofNodes nodes) path).bind Entry.order?) ?_
  have orders : ((locatedAll .top 0 nodes).map Prod.fst).map
      (fun path => (Document.entry? (Document.ofNodes nodes) path).bind Entry.order?) =
        ((ordersOf nodes).map storedOrder).map some := by
    rw [← map_order_preorderAll, ← map_snd_locatedAll nodes .top 0, List.map_map, List.map_map,
      List.map_map, List.map_map]
    refine List.map_congr_left fun x mem => ?_
    have found := (Document.entry?_ofNodes_iff fun n mem => (fit n mem).arrayFree).2
      ⟨x.2, mem, rfl⟩
    show (Document.entry? (Document.ofNodes nodes) x.1).bind Entry.order? = some _
    rw [found]
    obtain ⟨path, n⟩ := x
    cases n <;> rfl
  rw [orders]
  exact distinct.map fun _ _ => Option.some.inj

end Node

namespace Compiler

variable {c : Compiler} {p : Program}

/-! ## Compiled nodes -/

/-- A node that is built from a block is fit. -/
theorem BuiltFrom.fit (builtIn : c.rules = .builtIn) {h : Handle} {n : Node}
    (built : c.BuiltFrom p h n) : n.Fit := by
  cases built with
  | effect => exact ⟨branchFree_blockParams builtIn _, blockChance_le _⟩
  | gate => exact branchFree_blockParams builtIn _

/-- A node has the placeholder exactly if its block waits for the registry. -/
theorem BuiltFrom.waitsAt_eq {h : Handle} {n : Node} (built : c.BuiltFrom p h n) :
    c.waitsAt p h = n.isUnloaded := by
  cases built with
  | effect there noGate number =>
    rw [waitsAt, Program.tag?_of_block? there, Option.any_some, noGate, Node.isUnloaded]
    rcases number with ⟨d, mem, -, rfl⟩ | ⟨unready, effect, rfl⟩
    · have known : d.id ≠ placeholderId := c.registry.effects_sound.1 d mem
      rw [Registry.isReady_of_mem mem]
      simp [known]
    · rw [unready, effect]
      rfl
  | gate there isGate => rw [waitsAt_of_isGate there isGate, Node.isUnloaded]

/-! ## Compiled documents -/

/-- The paths of the effects with the placeholder. -/
def placeholderPaths (c : Compiler) (p : Program) : List NodePath :=
  ((Node.locatedAll .top 0 (c.compile p).nodes).filter (·.2.isUnloaded)).map Prod.fst

section builtIn

variable (builtIn : c.rules = .builtIn)

include builtIn

theorem fit_of_mem_compile {n : Node} (mem : n ∈ Node.preorderAll (c.compile p).nodes) :
    n.Fit := by
  obtain ⟨h, built⟩ := exists_builtFrom mem
  exact built.fit builtIn

theorem entry?_document_iff {path : NodePath} {e : Entry} :
    Document.entry? (c.document p) path = some e ↔
      ∃ n, (path, n) ∈ Node.locatedAll .top 0 (c.compile p).nodes ∧ e = n.lower.entry :=
  Document.entry?_ofNodes_iff fun _ mem => (fit_of_mem_compile builtIn mem).arrayFree

/-- The placeholders of a compilation stand at the paths, in their order. -/
theorem forall₂_placeholderPaths :
    List.Forall₂ (fun h path => ∃ n, c.BuiltFrom p h n ∧
      Document.entry? (c.document p) path = some n.lower.entry)
        (c.compile p).placeholders (c.placeholderPaths p) := by
  have built : List.Forall₂ (fun x h => c.BuiltFrom p h x.2)
      (Node.locatedAll .top 0 (c.compile p).nodes) (c.writtenOf p.outline) := by
    refine (List.forall₂_map_left_iff (R := fun n h => c.BuiltFrom p h n)).1 ?_
    rw [Node.map_snd_locatedAll]
    exact (forall₂_builtFrom c p).flip
  have placed : ∀ x ∈ Node.locatedAll .top 0 (c.compile p).nodes,
      Document.entry? (c.document p) x.1 = some x.2.lower.entry := fun x mem =>
    (entry?_document_iff builtIn).2 ⟨x.2, mem, rfl⟩
  have both := (List.forall₂_and_left _ _).2 ⟨placed, built⟩
  show List.Forall₂ _ (c.placeholdersOf p.outline) _
  rw [placeholdersOf_eq_filter p.allOf_outline, placeholderPaths, List.forall₂_map_right_iff]
  have waits : ∀ (x : NodePath × Node) (h : Handle),
      Document.entry? (c.document p) x.1 = some x.2.lower.entry ∧ c.BuiltFrom p h x.2 →
        (x.2.isUnloaded = true ↔ c.waitsAt p h = true) := by
    intro x h related
    rw [related.2.waitsAt_eq]
  have waiting := List.rel_filter (fun x h => waits x h) both
  exact waiting.flip.imp fun h x related => ⟨x.2, related.2, related.1⟩

theorem nodup_map_fst_located (small : (c.compile p).nodeCount < words32) :
    ((Node.locatedAll .top 0 (c.compile p).nodes).map Prod.fst).Nodup :=
  Node.nodup_paths (fun _ mem => fit_of_mem_compile builtIn mem)
    (Node.nodup_orders (c.numberedAll_compile p) small)

/-- A compiled document is tidy but for its placeholders. -/
theorem tidyBut_document (small : (c.compile p).nodeCount < words32) :
    (c.document p).TidyBut (c.placeholderPaths p) where
  orders := by
    rw [orders_eq_map_storedOrder]
    exact Node.nodup_orders (c.numberedAll_compile p) small
  entries := by
    intro path e found
    obtain ⟨n, mem, rfl⟩ := (entry?_document_iff builtIn).1 found
    have below : n ∈ Node.preorderAll (c.compile p).nodes := by
      rw [← Node.map_snd_locatedAll _ .top 0]
      exact List.mem_map.2 ⟨(path, n), mem, rfl⟩
    have fit := fit_of_mem_compile builtIn below
    have unloaded_iff : n.isUnloaded = true ↔ path ∈ c.placeholderPaths p := by
      rw [placeholderPaths, List.mem_map]
      constructor
      · intro unloaded
        exact ⟨(path, n), List.mem_filter.2 ⟨mem, unloaded⟩, rfl⟩
      · rintro ⟨x, xMem, path_eq⟩
        obtain ⟨xMem, unloaded⟩ := List.mem_filter.1 xMem
        have same := List.inj_on_of_nodup_map (nodup_map_fst_located builtIn small) xMem mem path_eq
        rwa [same] at unloaded
    refine ⟨n.lower, _, _, rfl, ?_⟩
    cases n with
    | gate => exact .inl (Node.tidyGate_lower fit)
    | effect id =>
      refine .inr ⟨id, Node.tidyEffect_lower fit, ?_⟩
      rw [← unloaded_iff]
      exact beq_iff_eq.symm

theorem problems_document (small : (c.compile p).nodeCount < words32) (v : Validator) :
    v.problems (c.document p) =
      v.locatedProblems (Node.locatedAll .top 0 (c.compile p).nodes) :=
  Validator.problems_ofNodes (fun _ mem => fit_of_mem_compile builtIn mem)
    (Node.nodup_orders (c.numberedAll_compile p) small)

/-- The only structural problems of a compiled document are its placeholders. -/
theorem filter_problems_document (small : (c.compile p).nodeCount < words32) (v : Validator) :
    (v.problems (c.document p)).filter (·.2.layer = .structural) =
      (c.placeholderPaths p).map fun path => (path, .placeholder) := by
  rw [problems_document builtIn small, Validator.filter_locatedProblems]
  rfl

/-- A placeholder is an error for every validator. -/
theorem valid_eq_false (small : (c.compile p).nodeCount < words32)
    (waiting : (c.compile p).placeholders ≠ []) (v : Validator) :
    (v.validate (c.document p)).valid = false := by
  rw [Bool.eq_false_iff]
  intro valid
  have placed := forall₂_placeholderPaths (p := p) builtIn
  cases paths : c.placeholderPaths p with
  | nil =>
    rw [paths] at placed
    exact waiting (List.forall₂_nil_right_iff.1 placed)
  | cons path rest =>
    have mem : (path, Problem.placeholder) ∈
        (v.problems (c.document p)).filter (·.2.layer = .structural) := by
      rw [filter_problems_document builtIn small, paths]
      exact List.mem_cons_self
    cases Validator.valid_validate_iff.1 valid _ (List.mem_filter.1 mem).1

/-- Before its registry is ready, a validator has no error to report without a placeholder. -/
theorem valid_of_unready (small : (c.compile p).nodeCount < words32)
    (noneWaits : (c.compile p).placeholders = []) {v : Validator}
    (unready : v.registry.isReady = false) : (v.validate (c.document p)).valid = true := by
  have placed := forall₂_placeholderPaths (p := p) builtIn
  rw [noneWaits] at placed
  have noStructural := filter_problems_document builtIn small v
  rw [List.forall₂_nil_left_iff.1 placed] at noStructural
  refine Validator.valid_validate_iff.2 fun x mem => ?_
  have notStructural := List.filter_eq_nil_iff.1 noStructural x mem
  rw [problems_document builtIn small] at mem
  obtain ⟨y, -, inNode⟩ := List.mem_flatMap.1 mem
  obtain ⟨problem, found, rfl⟩ := List.mem_map.1 inNode
  rcases Validator.of_mem_nodeProblems found with rfl | ⟨-, ready⟩ | ⟨-, warning⟩
  · exact absurd rfl notStructural
  · rw [unready] at ready
    cases ready
  · exact warning

/-- In the reports on a compiled document, the structural findings are one for each placeholder, at
the path of the node that is built from it, whatever the registry and the settings of the validator
are.  So the document is never valid if there is a placeholder.  It is valid for the registry that
it was compiled with if there is none and that registry is not ready. -/
theorem validate_document (small : (c.compile p).nodeCount < words32) :
    ∃ paths : List NodePath, paths.Nodup ∧
      List.Forall₂ (fun h path => ∃ n, c.BuiltFrom p h n ∧
        Document.entry? (c.document p) path = some n.lower.entry)
          (c.compile p).placeholders paths ∧
      (∀ v : Validator, (v.validate (c.document p)).findings.filter (·.layer = .structural) =
        paths.map fun path => Problem.placeholder.finding path) ∧
      (c.document p).TidyBut paths ∧
      ((c.compile p).placeholders ≠ [] →
        ∀ v : Validator, (v.validate (c.document p)).valid = false) ∧
      (c.registry.isReady = false → (c.compile p).placeholders = [] → ∀ config,
        (Validator.validate { registry := c.registry, config } (c.document p)).valid = true) := by
  refine ⟨c.placeholderPaths p, ?_, forall₂_placeholderPaths builtIn, fun v => ?_,
    tidyBut_document builtIn small, fun waiting => valid_eq_false builtIn small waiting,
    fun unready noneWaits config => valid_of_unready builtIn small noneWaits unready⟩
  · exact (List.filter_sublist.map Prod.fst).nodup (nodup_map_fst_located builtIn small)
  · exact Validator.filter_findings_validate (filter_problems_document builtIn small v)

end builtIn

theorem outline_mixed : mixed.outline =
    [.gate 0 "gate_check" .check [.plain 1 "effect_summon", .plain 2 "note"] []] := by
  have outer : mixed.chain 0 = [0] := by decide +kernel
  have inner : mixed.chain 1 = [1, 2] := by decide +kernel
  have pass : mixed.outlineWithin [0] (mixed.chain 1) =
      [.plain 1 "effect_summon", .plain 2 "note"] := by
    rw [inner, Program.outlineWithin_cons_plain rfl rfl,
      Program.outlineWithin_cons_plain rfl rfl, Program.outlineWithin]
  show mixed.outlineWithin [] (mixed.chain 0) ++ [] = _
  rw [List.append_nil, outer, Program.outlineWithin_cons_gate rfl rfl List.not_mem_nil,
    Program.outlineWithin]
  show [Outline.gate 0 _ _ (mixed.outlineWithin [0] (mixed.chain 1)) []] = _
  rw [pass]

/-- Before the registry is ready, the effect of the mixed program keeps its document from being
saved. -/
theorem validate_document_mixed : ∃ path,
    (Validator.validate { registry := .empty }
        (document { registry := .empty } mixed)).findings.filter (·.layer = .structural) =
      [Problem.placeholder.finding path] ∧
    (Validator.validate { registry := .empty }
      (document { registry := .empty } mixed)).valid = false := by
  have count : (compile { registry := .empty } mixed).nodeCount = 2 := by
    rw [nodeCount_compile, outline_mixed]
    decide
  have waiting : (compile { registry := .empty } mixed).placeholders = [1] := by
    show placeholdersOf _ mixed.outline = [1]
    rw [outline_mixed]
    decide
  obtain ⟨paths, -, placed, findings, -, invalid, -⟩ :=
    validate_document (c := { registry := .empty }) (p := mixed) rfl (by rw [count]; decide)
  rw [waiting] at placed invalid
  obtain ⟨path, rest, -, last, rfl⟩ := List.forall₂_cons_left_iff.1 placed
  cases List.forall₂_nil_left_iff.1 last
  exact ⟨path, findings _, invalid (List.cons_ne_nil 1 []) _⟩

end Compiler

end EffectFlow
