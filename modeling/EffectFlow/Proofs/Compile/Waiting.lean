import EffectFlow.Proofs.Compile.Visits
import EffectFlow.Proofs.Rebuild.Programs

/-!
# Programs that wait for their registry

A program may be compiled before its registry is ready, and again once the registry knows all its
effects (`Compiler.Precedes`).  Both compilations walk the same outline.  They skip the same blocks
and count the same nodes (`Compiler.Precedes.outlines_eq`).

A node of the first compilation *awaits* the node of the second that stands in its place
(`Compiler.Awaits`).  A gate is the same in both.  An effect has the placeholder as its number, and
its parameters are among those that it will have (`Compiler.Precedes.within_blockParams`).  So
nothing is lost by compiling early (`Compiler.compile_awaits`).
-/

namespace EffectFlow

open Json (Value)

/-! ## Parameters that are among others -/

/-- Every entry of the first dictionary is one of the second. -/
def Dict.Within {α : Type} (d e : Dict α) : Prop :=
  ∀ key value, d.get? key = some value → e.get? key = some value

theorem Dict.Within.insert {α : Type} {d e : Dict α} (within : d.Within e) (key : String)
    (value : α) : (d.insert key value).Within (e.insert key value) := by
  intro key' value' found
  rw [Dict.get?_insert] at found ⊢
  split
  · next here => rwa [if_pos here] at found
  · next other =>
    rw [if_neg other] at found
    exact within key' value' found

theorem Dict.Within.filter {α : Type} {d e : Dict α} (within : d.Within e)
    (keep : String → α → Bool) : (d.filter keep).Within (e.filter keep) := by
  intro key value found
  rw [Dict.get?_filter, Option.filter_eq_some_iff] at found ⊢
  exact ⟨within key value found.1, found.2⟩

/-- A rule writes the same whatever parameters there are already. -/
theorem FieldRule.within_toParams {params params' : Dict Value} (rule : FieldRule)
    (fields : Dict Value) (within : params.Within params') :
    (rule.toParams fields params).Within (rule.toParams fields params') := by
  cases rule with
  | reference field zoneKey idKey =>
    rw [toParams, toParams]
    split
    · exact (within.insert _ _).insert _ _
    · exact within
  | pair key first second =>
    rw [toParams, toParams]
    split
    · exact within
    · exact within.insert _ _
  | json field =>
    rw [toParams, toParams]
    split
    · exact within.insert _ _
    · exact within

namespace Compiler

/-- The first compiler waits for its registry, and the second has a registry that knows all effects
of the program. -/
structure Precedes (c₀ c₁ : Compiler) (p : Program) : Prop where
  /-- The rules are the same. -/
  rules : c₀.rules = c₁.rules
  /-- The first registry is not ready. -/
  unready : c₀.registry.isReady = false
  /-- The second registry knows the effects. -/
  known : ∀ b ∈ p.blocks, isEffectTag b.tag = true → ∃ id, c₁.registry.resolve b.tag = .found id

/-- The first node, with the placeholder and the parameters that are known without a registry, is
the second once the registry is there. -/
inductive Awaits (c₀ c₁ : Compiler) (p : Program) : Node → Node → Prop
  | effect {h : Handle} {b : Block} {id : UInt32} (there : p.block? h = some b)
      (known : c₁.registry.resolve b.tag = .found id)
      (within : (c₀.blockParams b).Within (c₁.blockParams b)) (order : UInt32) :
      c₀.Awaits c₁ p
        (.effect placeholderId (c₀.blockParams b) order (blockTrigger? b) (blockChance b))
        (.effect id (c₁.blockParams b) order (blockTrigger? b) (blockChance b))
  | gate {onPass onPass' onFail onFail' : List Node}
      (pass : List.Forall₂ (c₀.Awaits c₁ p) onPass onPass')
      (fail : List.Forall₂ (c₀.Awaits c₁ p) onFail onFail') (type : GateKind)
      (params : Dict Value) (order : UInt32) :
      c₀.Awaits c₁ p (.gate type params order onPass onFail)
        (.gate type params order onPass' onFail')

variable {c₀ c₁ : Compiler} {p : Program}

/-! ## Numbers of effects -/

theorem isEffectTag_tag (d : Effect) : isEffectTag d.tag = true := by
  rw [isEffectTag, Effect.tag, String.toList_append, Text.after?_append]
  rfl

/-- While the registry is not ready, every effect tag has the placeholder and no other tag has a
number. -/
theorem effectId?_of_unready (unready : c₀.registry.isReady = false) (tag : String) :
    c₀.effectId? tag = if isEffectTag tag then some placeholderId else none := by
  rw [effectId?, Registry.resolve, unready]
  rfl

theorem effectId?_of_notEffect {tag : String} (other : isEffectTag tag = false) :
    c₁.effectId? tag = none := by
  refine Option.eq_none_iff_forall_ne_some.2 fun id known => ?_
  rcases effectId?_eq_some_iff.1 known with ⟨d, -, rfl, -⟩ | ⟨-, effect, -⟩
  · rw [isEffectTag_tag] at other
    cases other
  · rw [other] at effect
    cases effect

theorem effectId?_of_found {tag : String} {id : UInt32}
    (known : c₁.registry.resolve tag = .found id) : c₁.effectId? tag = some id := by
  rw [effectId?, known]

/-- A block has a number before the registry is ready exactly if it has one after. -/
theorem Precedes.effectId?_cases (before : c₀.Precedes c₁ p) {b : Block} (mem : b ∈ p.blocks) :
    (c₀.effectId? b.tag = some placeholderId ∧ ∃ id, c₁.registry.resolve b.tag = .found id) ∨
      c₀.effectId? b.tag = none ∧ c₁.effectId? b.tag = none := by
  rw [effectId?_of_unready before.unready]
  cases effect : isEffectTag b.tag with
  | true => exact .inl ⟨rfl, before.known b mem effect⟩
  | false => exact .inr ⟨rfl, effectId?_of_notEffect effect⟩

/-- The same blocks have numbers before and after the registry is loaded. -/
theorem Precedes.isSome_effectId? (before : c₀.Precedes c₁ p) {b : Block} (mem : b ∈ p.blocks) :
    (c₀.effectId? b.tag).isSome = (c₁.effectId? b.tag).isSome := by
  rcases before.effectId?_cases mem with ⟨waits, id, known⟩ | ⟨first, second⟩
  · rw [waits, effectId?_of_found known]
    rfl
  · rw [first, second]

/-! ## Parameters -/

/-- A gate has its fields from its kind, so its parameters do not depend on the registry. -/
theorem Precedes.blockParams_of_isGate (before : c₀.Precedes c₁ p) {b : Block} {type : GateKind}
    (isGate : GateKind.ofTag? b.tag = some type) : c₀.blockParams b = c₁.blockParams b := by
  have fields : c₀.fieldsOf b.tag = c₁.fieldsOf b.tag := by
    rw [fieldsOf, fieldsOf, EffectFlow.fieldsOf, EffectFlow.fieldsOf, baseFields, baseFields,
      isGate, before.rules]
  simp only [blockParams, writtenFields, fields, before.rules]

theorem mem_fieldsOf_iff {c : Compiler} {tag name : String} :
    name ∈ c.fieldsOf tag ↔ name ∈ baseFields c.registry tag ∨ name ∈ blockOnlyFields tag ∨
      name ∈ c.rules.blockFields tag := by
  rw [fieldsOf, EffectFlow.fieldsOf, List.mem_eraseDups, List.mem_append, List.mem_append, or_assoc]

theorem baseFields_of_unready (unready : c₀.registry.isReady = false) {tag : String}
    (noGate : GateKind.ofTag? tag = none) : baseFields c₀.registry tag = [] := by
  have unknown : ∀ name, c₀.registry.effectNamed? name = none := fun name => by
    rw [Registry.effectNamed?, Registry.effectOfTag?_eq_none_iff,
      Registry.isReady_eq_false_iff.1 unready]
    exact List.forall_mem_nil _
  rw [baseFields, noGate]
  simp only [unknown]

/-- The fields that are listed before are listed after. -/
theorem Precedes.mem_fieldsOf (before : c₀.Precedes c₁ p) {tag name : String}
    (noGate : GateKind.ofTag? tag = none) (listed : name ∈ c₀.fieldsOf tag) :
    name ∈ c₁.fieldsOf tag := by
  rw [mem_fieldsOf_iff, baseFields_of_unready before.unready noGate, before.rules] at listed
  exact mem_fieldsOf_iff.2 (listed.imp_left (nomatch ·))

theorem Precedes.within_writtenFields (before : c₀.Precedes c₁ p) {b : Block}
    (noGate : GateKind.ofTag? b.tag = none) : (c₀.writtenFields b).Within (c₁.writtenFields b) := by
  intro name v found
  rw [get?_writtenFields, Option.filter_eq_some_iff] at found ⊢
  obtain ⟨there, admitted⟩ := found
  rw [admits, Bool.and_assoc, Bool.and_eq_true, List.contains_iff_mem] at admitted ⊢
  exact ⟨there, before.mem_fieldsOf noGate admitted.1, admitted.2⟩

/-- The fields of rules are listed in any case. -/
theorem Precedes.get?_writtenFields_eq (before : c₀.Precedes c₁ p) {b : Block} {name : String}
    (mem : name ∈ c₀.rules.blockFields b.tag) :
    (c₀.writtenFields b).get? name = (c₁.writtenFields b).get? name := by
  have first : name ∈ c₀.fieldsOf b.tag := mem_fieldsOf_iff.2 (.inr (.inr mem))
  have second : name ∈ c₁.fieldsOf b.tag :=
    mem_fieldsOf_iff.2 (.inr (.inr (before.rules ▸ mem)))
  have same : c₀.admits b.tag name = c₁.admits b.tag name := by
    funext v
    rw [admits, admits, List.contains_iff_mem.2 first, List.contains_iff_mem.2 second]
  rw [get?_writtenFields, get?_writtenFields, same]

theorem within_fold {rules : List FieldRule} (fields : Dict Value) {params params' : Dict Value}
    (within : params.Within params') :
    (fold rules fields params).Within (fold rules fields params') := by
  induction rules generalizing params params' with
  | nil => exact within
  | cons rule rest ih => exact ih (rule.within_toParams fields within)

/-- A registry that is ready lists more fields, but none that a rule reads.  So the rules write the
same, and the other parameters only become more. -/
theorem Precedes.within_blockParams (before : c₀.Precedes c₁ p) {b : Block}
    (noGate : GateKind.ofTag? b.tag = none) : (c₀.blockParams b).Within (c₁.blockParams b) := by
  rw [blockParams_eq_fold, blockParams_eq_fold, ← before.rules,
    fold_congr fun _ mem => before.get?_writtenFields_eq mem]
  exact within_fold _ ((before.within_writtenFields noGate).filter _)

/-! ## Walks in step -/

mutual

/-- An outline becomes as many nodes before and after, and the same blocks are skipped. -/
theorem Precedes.outline_eq (before : c₀.Precedes c₁ p) : ∀ {o : Outline}, o.Of p →
    c₀.outlineSize o = c₁.outlineSize o ∧ c₀.skipped o = c₁.skipped o
  | .missing h, _ => ⟨rfl, rfl⟩
  | .loop h tag, _ => ⟨rfl, rfl⟩
  | .plain h tag, ⟨b, there, tag_eq, noGate⟩ => by
    have same := before.isSome_effectId? (List.mem_of_getElem? there)
    rw [tag_eq] at same
    rw [outlineSize, outlineSize, skipped, skipped, same]
    exact ⟨rfl, rfl⟩
  | .gate h tag type onPass onFail, ⟨_, ofPass, ofFail⟩ => by
    obtain ⟨sizePass, skipPass⟩ := before.outlines_eq ofPass
    obtain ⟨sizeFail, skipFail⟩ := before.outlines_eq ofFail
    rw [outlineSize, outlineSize, skipped, skipped, sizePass, sizeFail, skipPass, skipFail]
    exact ⟨rfl, rfl⟩

/-- As many blocks become nodes, and the same are skipped. -/
theorem Precedes.outlines_eq (before : c₀.Precedes c₁ p) : ∀ {os : List Outline},
    Outline.AllOf p os →
      c₀.outlineSizes os = c₁.outlineSizes os ∧ c₀.skippedOf os = c₁.skippedOf os
  | [], _ => ⟨rfl, rfl⟩
  | o :: rest, ⟨ofHead, ofRest⟩ => by
    obtain ⟨size, skip⟩ := before.outline_eq ofHead
    obtain ⟨sizes, skips⟩ := before.outlines_eq ofRest
    rw [outlineSizes, outlineSizes, skippedOf, skippedOf, size, skip, sizes, skips]
    exact ⟨rfl, rfl⟩

end

mutual

/-- The node of an outline before awaits the one after. -/
theorem Precedes.awaits_node? (before : c₀.Precedes c₁ p) : ∀ {o : Outline} (start : Nat), o.Of p →
    Option.Rel (c₀.Awaits c₁ p) (c₀.node? p start o) (c₁.node? p start o)
  | .missing h, start, _ => .none
  | .loop h tag, start, _ => .none
  | .plain h tag, start, ⟨b, there, tag_eq, noGate⟩ => by
    subst tag_eq
    rw [node?, node?, there]
    rcases before.effectId?_cases (List.mem_of_getElem? there) with
      ⟨waits, id, known⟩ | ⟨first, second⟩
    · rw [waits, effectId?_of_found known]
      exact .some (.effect there known (before.within_blockParams noGate) _)
    · rw [first, second]
      exact .none
  | .gate h tag type onPass onFail, start, ⟨⟨b, there, tag_eq, isGate⟩, ofPass, ofFail⟩ => by
    have pass := before.awaits_nodes (start + 1) ofPass
    have fail := before.awaits_nodes (start + 1 + c₁.outlineSizes onPass) ofFail
    subst tag_eq
    rw [node?, node?, there, (before.outlines_eq ofPass).1]
    show Option.Rel (c₀.Awaits c₁ p) (some (.gate type (c₀.blockParams b) _ _ _)) _
    rw [before.blockParams_of_isGate isGate]
    exact .some (.gate pass fail _ _ _)

/-- Each node awaits the one that stands in its place later. -/
theorem Precedes.awaits_nodes (before : c₀.Precedes c₁ p) : ∀ {os : List Outline} (start : Nat),
    Outline.AllOf p os →
      List.Forall₂ (c₀.Awaits c₁ p) (c₀.nodes p start os) (c₁.nodes p start os)
  | [], start, _ => .nil
  | o :: rest, start, ⟨ofHead, ofRest⟩ => by
    have head := before.awaits_node? start ofHead
    rw [nodes, nodes, (before.outline_eq ofHead).1]
    -- Either there is a node both times, or there is none.
    cases first : c₀.node? p start o <;> cases second : c₁.node? p start o <;>
      rw [first, second] at head <;> cases head
    · exact before.awaits_nodes start ofRest
    · next awaits =>
      exact .cons awaits (before.awaits_nodes (start + c₁.outlineSize o) ofRest)

end

/-- A program that is compiled before its registry is ready is kept whole: its nodes await those
that it is compiled to once all its effects are known, and the same blocks are skipped. -/
theorem compile_awaits (c : Compiler) (r₀ r₁ : Registry) (p : Program)
    (unready : r₀.isReady = false)
    (known : ∀ b ∈ p.blocks, isEffectTag b.tag = true → ∃ id, r₁.resolve b.tag = .found id) :
    let before := { c with registry := r₀ }
    let after := { c with registry := r₁ }
    List.Forall₂ (before.Awaits after p) (before.compile p).nodes (after.compile p).nodes ∧
      (before.compile p).skipped = (after.compile p).skipped := by
  have precedes : Precedes { c with registry := r₀ } { c with registry := r₁ } p :=
    ⟨rfl, unready, known⟩
  exact ⟨precedes.awaits_nodes 0 p.allOf_outline, (precedes.outlines_eq p.allOf_outline).2⟩

/-- Without a registry all three blocks of the gated summons become nodes, as they do later. -/
theorem compile_awaits_gatedSummons :
    let before : Compiler := { twoEffects with registry := .empty }
    List.Forall₂ (before.Awaits twoEffects gatedSummons) (before.compile gatedSummons).nodes
        (twoEffects.compile gatedSummons).nodes ∧
      (before.compile gatedSummons).skipped = [] := by
  obtain ⟨awaits, skips⟩ := compile_awaits twoEffects .empty twoEffects.registry gatedSummons rfl
    fun b mem effect => by
      simp only [gatedSummons, List.mem_cons, List.not_mem_nil, or_false] at mem
      rcases mem with rfl | rfl | rfl
      · exact absurd effect (by decide)
      · exact ⟨7, by decide⟩
      · exact ⟨9, by decide⟩
  refine ⟨awaits, skips.trans ?_⟩
  show twoEffects.skippedOf gatedSummons.outline = []
  rw [outline_gatedSummons]
  decide

end Compiler

end EffectFlow
