import EffectFlow.Proofs.Compile.Nodes
import EffectFlow.Proofs.Pipeline.Preorder
import EffectFlow.Proofs.Program.Visits
import EffectFlow.Proofs.Registry.Tags

/-!
# Blocks and the nodes they become

A node is *built from* a block if the kind, the parameters, the trigger and the chance of the node
are those of the block (`Compiler.BuiltFrom`).  Compiling any program builds its nodes from the
blocks of its outline that have a kind, one for each and in their order
(`Compiler.forall₂_builtFrom`), and the placeholders are among them
(`Compiler.placeholdersOf_eq_filter`).

The outline of a program that passes the check of its links lists the visit list of the program.
So no block of the visit list is lost and none is invented (`Compiler.compile_visitList`).
-/

namespace EffectFlow

namespace Compiler

/-! ## Kinds of blocks -/

/-- Does a block of the tag have a kind?  The tag is one of a known effect, one of a gate, or one
that begins like an effect tag before the registry is ready. -/
def resolves (c : Compiler) (tag : String) : Bool :=
  (c.registry.effectOfTag? tag).isSome || (GateKind.ofTag? tag).isSome ||
    (!c.registry.isReady && isEffectTag tag)

/-- Is there a block with a kind at the handle? -/
def resolvesAt (c : Compiler) (p : Program) (h : Handle) : Bool := (p.tag? h).any c.resolves

/-- Is there a block at the handle that waits for the registry to be ready? -/
def waitsAt (c : Compiler) (p : Program) (h : Handle) : Bool :=
  !c.registry.isReady &&
    (p.tag? h).any fun tag => isEffectTag tag && (GateKind.ofTag? tag).isNone

/-- The number is that of the known effect of the tag, or the placeholder before the registry is
ready. -/
def NumberOf (c : Compiler) (tag : String) (id : UInt32) : Prop :=
  (∃ d ∈ c.registry.effects, d.tag = tag ∧ d.id = id) ∨
    c.registry.isReady = false ∧ isEffectTag tag = true ∧ id = placeholderId

/-- The node has the kind, the parameters, the trigger and the chance of the block. -/
inductive BuiltFrom (c : Compiler) (p : Program) : Handle → Node → Prop
  | effect {h : Handle} {b : Block} {id order : UInt32} (there : p.block? h = some b)
      (noGate : GateKind.ofTag? b.tag = none) (number : c.NumberOf b.tag id) :
      c.BuiltFrom p h (.effect id (c.blockParams b) order (blockTrigger? b) (blockChance b))
  | gate {h : Handle} {b : Block} {type : GateKind} {order : UInt32} {onPass onFail : List Node}
      (there : p.block? h = some b) (isGate : GateKind.ofTag? b.tag = some type) :
      c.BuiltFrom p h (.gate type (c.blockParams b) order onPass onFail)

variable {c : Compiler} {p : Program}

/-- A tag is compiled to the number that it has. -/
theorem effectId?_eq_some_iff {tag : String} {id : UInt32} :
    c.effectId? tag = some id ↔ c.NumberOf tag id := by
  rw [effectId?, Registry.resolve_eq, NumberOf]
  cases ready : c.registry.isReady with
  | false =>
    rw [Registry.isReady_eq_false_iff.1 ready]
    cases isEffectTag tag <;> simp [eq_comm]
  | true =>
    cases found : c.registry.effectOfTag? tag with
    | none =>
      have unknown : ∀ d ∈ c.registry.effects, d.tag ≠ tag :=
        Registry.effectOfTag?_eq_none_iff.1 found
      simp only [if_true, reduceCtorEq, false_and, or_false, false_iff]
      rintro ⟨d, mem, tag_eq, -⟩
      exact unknown d mem tag_eq
    | some d =>
      obtain ⟨mem, tag_eq⟩ := Registry.effectOfTag?_eq_some_iff.1 found
      simp only [if_true, Option.some.injEq, reduceCtorEq, false_and, or_false]
      constructor
      · rintro rfl
        exact ⟨d, mem, tag_eq, rfl⟩
      · rintro ⟨e, memE, tagE, rfl⟩
        rw [← tagE] at found
        rw [Registry.effectOfTag?_eq_some_iff.2 ⟨memE, rfl⟩] at found
        rw [Option.some.inj found]

/-- A tag that is not one of a gate resolves exactly if it has a number. -/
theorem resolves_eq_isSome {tag : String} (noGate : GateKind.ofTag? tag = none) :
    c.resolves tag = (c.effectId? tag).isSome := by
  rw [resolves, noGate, effectId?, Registry.resolve_eq]
  cases ready : c.registry.isReady with
  | false =>
    have unknown : c.registry.effectOfTag? tag = none := by
      rw [Registry.effectOfTag?_eq_none_iff, Registry.isReady_eq_false_iff.1 ready]
      exact List.forall_mem_nil _
    rw [unknown]
    cases isEffectTag tag <;> rfl
  | true => cases c.registry.effectOfTag? tag <;> rfl

theorem isPlaceholder_eq {tag : String} (noGate : GateKind.ofTag? tag = none) :
    c.isPlaceholder tag =
      (!c.registry.isReady && (isEffectTag tag && (GateKind.ofTag? tag).isNone)) := by
  rw [isPlaceholder, Registry.resolve_eq, noGate]
  cases c.registry.isReady with
  | false => cases isEffectTag tag <;> rfl
  | true => cases c.registry.effectOfTag? tag <;> rfl

theorem resolvesAt_eq_isSome {h : Handle} {b : Block} (there : p.block? h = some b)
    (noGate : GateKind.ofTag? b.tag = none) :
    c.resolvesAt p h = (c.effectId? b.tag).isSome := by
  rw [resolvesAt, Program.tag?_of_block? there, Option.any_some, resolves_eq_isSome noGate]

/-- A gate has a kind. -/
theorem resolvesAt_of_isGate {h : Handle} {b : Block} {type : GateKind}
    (there : p.block? h = some b) (isGate : GateKind.ofTag? b.tag = some type) :
    c.resolvesAt p h = true := by
  rw [resolvesAt, Program.tag?_of_block? there, Option.any_some, resolves, isGate]
  simp

/-- A gate does not wait for the registry. -/
theorem waitsAt_of_isGate {h : Handle} {b : Block} {type : GateKind}
    (there : p.block? h = some b) (isGate : GateKind.ofTag? b.tag = some type) :
    c.waitsAt p h = false := by
  rw [waitsAt, Program.tag?_of_block? there, Option.any_some, isGate]
  simp

/-! ## Any program -/

mutual

/-- The blocks in a part of an outline that become nodes. -/
def written (c : Compiler) : Outline → List Handle
  | .missing _ => []
  | .plain h tag => if (c.effectId? tag).isSome then [h] else []
  | .gate h _ _ onPass onFail => h :: (writtenOf c onPass ++ writtenOf c onFail)
  | .loop _ _ => []
termination_by structural outline => outline

/-- The blocks in some parts of an outline that become nodes. -/
def writtenOf (c : Compiler) : List Outline → List Handle
  | [] => []
  | o :: rest => written c o ++ writtenOf c rest
termination_by structural outlines => outlines

end

mutual

/-- The nodes of an outline in preorder are built from its written blocks, each from one. -/
theorem forall₂_builtFrom_node? : ∀ {o : Outline} (start : Nat), o.Of p →
    List.Forall₂ (c.BuiltFrom p) (c.written o) (Node.preorderAll (c.node? p start o).toList)
  | .missing h, start, _ => .nil
  | .loop h tag, start, _ => .nil
  | .plain h tag, start, ⟨b, there, tag_eq, noGate⟩ => by
    rw [written, node?, there]
    cases known : c.effectId? tag with
    | none => exact .nil
    | some id =>
      subst tag_eq
      exact .cons (.effect there noGate (effectId?_eq_some_iff.1 known)) .nil
  | .gate h tag type onPass onFail, start, ⟨⟨b, there, tag_eq, isGate⟩, ofPass, ofFail⟩ => by
    have pass := forall₂_builtFrom_nodes (start + 1) ofPass
    have fail := forall₂_builtFrom_nodes (start + 1 + c.outlineSizes onPass) ofFail
    subst tag_eq
    rw [written, node?, there]
    show List.Forall₂ _ _ (Node.preorder _ ++ [])
    rw [List.append_nil, Node.preorder]
    exact .cons (.gate there isGate) (List.rel_append pass fail)

/-- Every node of an outline is built from its block, and the blocks stand in the same order. -/
theorem forall₂_builtFrom_nodes : ∀ {os : List Outline} (start : Nat), Outline.AllOf p os →
    List.Forall₂ (c.BuiltFrom p) (c.writtenOf os) (Node.preorderAll (c.nodes p start os))
  | [], start, _ => .nil
  | o :: rest, start, ⟨ofHead, ofRest⟩ => by
    have head := forall₂_builtFrom_node? start ofHead
    rw [writtenOf, nodes]
    cases made : c.node? p start o with
    | none =>
      rw [made] at head
      exact List.rel_append head (forall₂_builtFrom_nodes start ofRest)
    | some n =>
      rw [made, Option.toList_some, Node.preorderAll, Node.preorderAll, List.append_nil] at head
      exact List.rel_append head (forall₂_builtFrom_nodes (start + c.outlineSize o) ofRest)

end

/-- Every node of a program is built from its block. -/
theorem forall₂_builtFrom (c : Compiler) (p : Program) :
    List.Forall₂ (c.BuiltFrom p) (c.writtenOf p.outline)
      (Node.preorderAll (c.compile p).nodes) :=
  forall₂_builtFrom_nodes 0 p.allOf_outline

/-- Every node of a program, at any depth, is built from a block. -/
theorem exists_builtFrom {n : Node} (mem : n ∈ Node.preorderAll (c.compile p).nodes) :
    ∃ h, c.BuiltFrom p h n := by
  have each : List.Forall₂ (fun n h => (∃ h, c.BuiltFrom p h n) ∧ c.BuiltFrom p h n)
      (Node.preorderAll (c.compile p).nodes) (c.writtenOf p.outline) :=
    (forall₂_builtFrom c p).flip.imp fun _ h built => ⟨⟨h, built⟩, built⟩
  exact ((List.forall₂_and_left _ _).1 each).1 n mem

mutual

/-- The placeholders are the written blocks that wait for the registry. -/
theorem placeholders_eq_filter : ∀ {o : Outline}, o.Of p →
    c.placeholders o = (c.written o).filter (c.waitsAt p)
  | .missing h, _ => rfl
  | .loop h tag, _ => rfl
  | .plain h tag, ⟨b, there, tag_eq, noGate⟩ => by
    have waits : c.waitsAt p h = c.isPlaceholder tag := by
      rw [isPlaceholder_eq noGate, waitsAt, Program.tag?_of_block? there, tag_eq, Option.any_some]
    rw [placeholders, written]
    cases placeholder : c.isPlaceholder tag with
    | false => cases (c.effectId? tag).isSome <;> simp [waits, placeholder]
    | true =>
      have known : (c.effectId? tag).isSome = true := by
        rw [isPlaceholder, Bool.and_eq_true, beq_iff_eq] at placeholder
        rw [effectId?, placeholder.1, placeholder.2]
        rfl
      simp [waits, placeholder, known]
  | .gate h tag type onPass onFail, ⟨⟨b, there, tag_eq, isGate⟩, ofPass, ofFail⟩ => by
    have stays : c.waitsAt p h = false := waitsAt_of_isGate there (tag_eq ▸ isGate)
    rw [placeholders, written, List.filter_cons_of_neg (by simp [stays]), List.filter_append,
      placeholdersOf_eq_filter ofPass, placeholdersOf_eq_filter ofFail]

/-- The placeholders are the blocks that become nodes and wait for the registry. -/
theorem placeholdersOf_eq_filter : ∀ {os : List Outline}, Outline.AllOf p os →
    c.placeholdersOf os = (c.writtenOf os).filter (c.waitsAt p)
  | [], _ => rfl
  | o :: rest, ⟨ofHead, ofRest⟩ => by
    rw [placeholdersOf, writtenOf, List.filter_append, placeholders_eq_filter ofHead,
      placeholdersOf_eq_filter ofRest]

end

/-! ## Programs without loops -/

mutual

/-- The written blocks of a whole outline are those that resolve. -/
theorem written_eq_filter : ∀ {o : Outline}, o.Of p → o.Whole →
    c.written o = o.handles.filter (c.resolvesAt p)
  | .missing _, _, whole => whole.elim
  | .loop _ _, _, whole => whole.elim
  | .plain h tag, ⟨b, there, tag_eq, noGate⟩, _ => by
    subst tag_eq
    have resolved := resolvesAt_eq_isSome (c := c) there noGate
    rw [written, Outline.handles]
    cases known : (c.effectId? b.tag).isSome <;> simp [resolved, known]
  | .gate h tag type onPass onFail, ⟨⟨b, there, tag_eq, isGate⟩, ofPass, ofFail⟩,
      ⟨wholePass, wholeFail⟩ => by
    have resolved : c.resolvesAt p h = true := resolvesAt_of_isGate there (tag_eq ▸ isGate)
    rw [written, Outline.handles, List.filter_cons_of_pos resolved, List.filter_append,
      writtenOf_eq_filter ofPass wholePass, writtenOf_eq_filter ofFail wholeFail]

/-- In a whole outline the blocks with a kind become nodes. -/
theorem writtenOf_eq_filter : ∀ {os : List Outline}, Outline.AllOf p os → Outline.AllWhole os →
    c.writtenOf os = (Outline.handlesOf os).filter (c.resolvesAt p)
  | [], _, _ => rfl
  | o :: rest, ⟨ofHead, ofRest⟩, ⟨wholeHead, wholeRest⟩ => by
    rw [writtenOf, Outline.handlesOf, List.filter_append, written_eq_filter ofHead wholeHead,
      writtenOf_eq_filter ofRest wholeRest]

end

/-- A block is skipped because its tag is not known. -/
def skipAt (p : Program) (h : Handle) : Skip := ⟨h, p.tag? h, .unknownTag⟩

mutual

/-- All others are skipped, as blocks of unknown tags. -/
theorem skipped_eq_filter : ∀ {o : Outline}, o.Of p → o.Whole →
    c.skipped o = (o.handles.filter fun h => !c.resolvesAt p h).map (skipAt p)
  | .missing _, _, whole => whole.elim
  | .loop _ _, _, whole => whole.elim
  | .plain h tag, ⟨b, there, tag_eq, noGate⟩, _ => by
    subst tag_eq
    have resolved := resolvesAt_eq_isSome (c := c) there noGate
    rw [skipped, Outline.handles]
    cases known : (c.effectId? b.tag).isSome <;>
      simp [resolved, known, skipAt, Program.tag?_of_block? there]
  | .gate h tag type onPass onFail, ⟨⟨b, there, tag_eq, isGate⟩, ofPass, ofFail⟩,
      ⟨wholePass, wholeFail⟩ => by
    have resolved : c.resolvesAt p h = true := resolvesAt_of_isGate there (tag_eq ▸ isGate)
    rw [skipped, Outline.handles, List.filter_cons_of_neg (by simp [resolved]),
      List.filter_append, List.map_append, skippedOf_eq_filter ofPass wholePass,
      skippedOf_eq_filter ofFail wholeFail]

/-- In a whole outline the blocks without a kind are skipped, and no others. -/
theorem skippedOf_eq_filter : ∀ {os : List Outline}, Outline.AllOf p os → Outline.AllWhole os →
    c.skippedOf os =
      ((Outline.handlesOf os).filter fun h => !c.resolvesAt p h).map (skipAt p)
  | [], _, _ => rfl
  | o :: rest, ⟨ofHead, ofRest⟩, ⟨wholeHead, wholeRest⟩ => by
    rw [skippedOf, Outline.handlesOf, List.filter_append, List.map_append,
      skipped_eq_filter ofHead wholeHead, skippedOf_eq_filter ofRest wholeRest]

end

/-! ## Accepted programs -/

/-- A block that waits for the registry has a kind. -/
theorem resolvesAt_of_waitsAt {h : Handle} (waits : c.waitsAt p h = true) :
    c.resolvesAt p h = true := by
  rw [waitsAt, Bool.and_eq_true, Option.any_eq_true] at waits
  obtain ⟨unready, tag, found, effect⟩ := waits
  rw [Bool.and_eq_true] at effect
  rw [resolvesAt, found, Option.any_some, resolves, unready, effect.1]
  simp

/-- An accepted program has exactly one visit list.  The blocks in it that have a kind become the
nodes, in their order, the others are skipped because their tag is not known, and the placeholders
are the blocks that wait for the registry. -/
theorem compile_visitList (c : Compiler) {text : String} {p : Program}
    (accepted : Program.ofText text = .ok p) :
    ∃ visited, p.VisitList visited ∧ (∀ other, p.VisitList other → other = visited) ∧
      List.Forall₂ (c.BuiltFrom p) (visited.filter (c.resolvesAt p))
        (Node.preorderAll (c.compile p).nodes) ∧
      (c.compile p).skipped = (visited.filter fun h => !c.resolvesAt p h).map (skipAt p) ∧
      (c.compile p).placeholders = visited.filter (c.waitsAt p) := by
  have sound := Program.sound_of_check (Program.check_of_ofText accepted)
  have whole := Program.allWhole_outline sound
  have visits := Program.visitList_outline sound
  have kinds := writtenOf_eq_filter (c := c) p.allOf_outline whole
  refine ⟨Outline.handlesOf p.outline, visits, fun other h => h.unique visits, ?_,
    skippedOf_eq_filter p.allOf_outline whole, ?_⟩
  · rw [← kinds]
    exact forall₂_builtFrom c p
  · show c.placeholdersOf p.outline = _
    rw [placeholdersOf_eq_filter p.allOf_outline, kinds, List.filter_filter]
    refine List.filter_congr fun h _ => ?_
    cases waits : c.waitsAt p h with
    | false => rfl
    | true => rw [resolvesAt_of_waitsAt waits]; rfl

/-- The text of a program of a gate, with an effect and a block of no kind on pass. -/
def mixedText : String :=
  "\x7b\"blocks\":[\x7b\"type\":\"gate_check\",\"slots\":\x7b\"onPass\":1\x7d\x7d," ++
    "\x7b\"type\":\"effect_summon\",\"next\":2\x7d,\x7b\"type\":\"note\"\x7d],\"chains\":[0]\x7d"

/-- The program of that text. -/
def mixed : Program where
  blocks := [
    { tag := "gate_check", slots := Dict.ofList [("onPass", 1)] },
    { tag := "effect_summon", next := some 2 },
    { tag := "note" }]
  chains := [0]

theorem ofTextUnchecked_mixedText : Program.ofTextUnchecked mixedText = .ok mixed := by
  have read : (Program.ofTextUnchecked mixedText).toOption = some mixed := by decide +kernel
  cases found : Program.ofTextUnchecked mixedText with
  | error fault =>
    rw [found] at read
    cases read
  | ok p =>
    rw [found] at read
    rw [Option.some.inj read]

theorem check_mixed : mixed.check = .ok () := by
  have note : mixed.search [1, 0] [] [2] = .ok [2] := by
    rw [Program.search_of_block? (by decide) (by decide) rfl (Program.search_nil _ _),
      Program.search_nil]
  have summon : mixed.search [0] [] [1] = .ok [1, 2] := by
    rw [Program.search_of_block? (by decide) (by decide) rfl note, Program.search_nil]
  have all : mixed.search [] [] [0, 1, 2] = .ok [0, 1, 2] := by
    rw [Program.search_of_block? (by decide) (by decide) rfl summon,
      Program.search_of_done (by decide) (by decide),
      Program.search_of_done (by decide) (by decide), Program.search_nil]
  have noLoop : mixed.cycle? = none := by
    rw [Program.cycle?, show List.range mixed.blocks.length = [0, 1, 2] from rfl, all]
  rw [Program.check, show mixed.dangling? = none from rfl, noLoop]

theorem visitList_mixed : mixed.VisitList [0, 1, 2] := by
  have note : mixed.Visits (some 2) [2] := .plain rfl rfl .stop
  have summon : mixed.Visits (some 1) [1, 2] := .plain rfl rfl note
  have check : mixed.Visits (some 0) (0 :: ([1, 2] ++ [] ++ [])) :=
    .gate rfl rfl summon .stop .stop
  exact ⟨[[0, 1, 2]], .cons check .nil, rfl⟩

/-- Before the registry is ready, the effect of the mixed program waits and its note is skipped. -/
theorem compile_visitList_mixed :
    Program.ofText mixedText = .ok mixed ∧
      (compile { registry := .empty } mixed).skipped = [⟨2, some "note", .unknownTag⟩] ∧
      (compile { registry := .empty } mixed).placeholders = [1] := by
  have accepted : Program.ofText mixedText = .ok mixed := by
    rw [Program.ofText, ofTextUnchecked_mixedText]
    simp only [check_mixed]
  obtain ⟨visited, -, only, -, skipped, placeholders⟩ :=
    compile_visitList { registry := .empty } accepted
  rw [← only _ visitList_mixed] at skipped placeholders
  refine ⟨accepted, skipped.trans ?_, placeholders.trans ?_⟩
  · decide +kernel
  · decide +kernel

end Compiler

end EffectFlow
