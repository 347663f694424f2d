import EffectFlow.Proofs.Rebuild.Programs

/-!
# Rebuilding stored documents

Parameters are *clean* for a tag if they are what a block of the tag would be compiled to
(`Compiler.Clean`): every one is a listed field that documents hold, and what the rules fold is in
the form that they give it.  With the built-in rules clean parameters are settled
(`Compiler.Clean.settled`).

So a document of clean nodes that are numbered from zero is left as it was by rebuilding its
program and compiling that (`Compiler.document_rebuild_ofNodes`).
-/

namespace EffectFlow

open Json (Value)

/-- The fields of the rules for a tag that are not parameters as well. -/
def RuleTable.interfaceFields (table : RuleTable) (tag : String) : List String :=
  (table.rulesFor tag).flatMap fun rule =>
    rule.blockFields.filter fun name => !rule.paramKeys.contains name

namespace Compiler

/-! ## Clean parameters -/

/-- Both values are signed words, if both are there. -/
def SignedPair (params : Dict Value) (zoneKey idKey : String) : Prop :=
  ∀ zone id, params.get? zoneKey = some zone → params.get? idKey = some id →
    (∃ n, zone = Value.int64 n) ∧ ∃ n, id = Value.int64 n

/-- The parameters are in the form that a block of the tag would be compiled to. -/
structure Clean (c : Compiler) (tag : String) (params : Dict Value) : Prop where
  /-- Every parameter is a field of the tag. -/
  listed : ∀ key v, params.get? key = some v → key ∈ c.fieldsOf tag
  /-- No parameter has a name with a meaning of its own. -/
  plain : ∀ key v, params.get? key = some v → isReservedName key = false
  /-- No parameter is a field that stands on blocks only. -/
  stored : ∀ key v, params.get? key = some v →
    key ∉ RuleTable.builtIn.interfaceFields tag
  /-- No omittable parameter is empty, but for the arguments of a script. -/
  full : ∀ key v, params.get? key = some v → isOmittable tag key = true →
    (tag, key) ≠ ("effect_script", "args") → isEmptyMark v = false
  /-- A whole reference to a creature is made of signed words. -/
  summon : tag = "effect_summon" → SignedPair params "creatureZoneId" "creatureId"
  /-- A whole reference to an item is made of signed words. -/
  createItem : tag = "effect_create_item" → SignedPair params "itemZoneId" "itemId"
  /-- The target of a teleport, if it is an object, holds a zone or a room and no texts. -/
  teleport : tag = "effect_teleport" → ∀ v object, params.get? "targetRoom" = some v →
    v.members? = some object → object.isEmpty = false ∧
      ∀ key u, object.get? key = some u → (key = "zoneId" ∨ key = "roomId") ∧ u.text? = none
  /-- The arguments of a script are not nested too deeply, and their numbers read back. -/
  script : tag = "effect_script" → ∀ v, params.get? "args" = some v →
    v.tree.depth ≤ Json.maxDepth ∧ v.tree.NumbersReadBack

namespace Clean

variable {c : Compiler} {tag : String} {params : Dict Value}

/-- A clean parameter may stand on a block, but for the arguments of a script. -/
theorem admits (clean : c.Clean tag params) {key : String} {v : Value}
    (found : params.get? key = some v) (notArgs : (tag, key) ≠ ("effect_script", "args")) :
    c.admits tag key v = true := by
  have kept : (isOmittable tag key && isEmptyMark v) = false := by
    cases omittable : isOmittable tag key with
    | false => rfl
    | true => rw [clean.full key v found omittable notArgs, Bool.and_false]
  simp only [Compiler.admits, clean.plain key v found, kept]
  simp [clean.listed key v found]

theorem get?_interfaceField (clean : c.Clean tag params) {rule : FieldRule}
    (rules : RuleTable.builtIn.rulesFor tag = [rule]) {name : String}
    (field : name ∈ rule.blockFields) (notKey : name ∉ rule.paramKeys) :
    params.get? name = none := by
  refine Option.eq_none_iff_forall_ne_some.2 fun v found => clean.stored name v found ?_
  rw [RuleTable.interfaceFields, rules, List.flatMap_singleton, List.mem_filter]
  exact ⟨field, by simp [notKey]⟩

/-- Clean parameters with a zone and a number are settled under their rule. -/
theorem settled_of_signedPair (builtIn : c.rules = .builtIn) (clean : c.Clean tag params)
    {field zoneKey idKey : String}
    (rules : RuleTable.builtIn.rulesFor tag = [.reference field zoneKey idKey])
    (apart : field ∉ [zoneKey, idKey]) (notScript : tag ≠ "effect_script")
    (signed : SignedPair params zoneKey idKey) : c.Settled tag params := by
  have notArgs : ∀ name, (tag, name) ≠ ("effect_script", "args") :=
    fun name eq => notScript (Prod.mk.inj eq).1
  have compilerRules := rules
  rw [← builtIn] at compilerRules
  refine settled_of_reference compilerRules (fun v => ?_) ?_ ?_ ?_
  · exact admits_builtIn builtIn compilerRules List.mem_cons_self (.inl nofun)
  · exact clean.get?_interfaceField rules List.mem_cons_self apart
  · intro key v found _
    exact clean.admits found (notArgs key)
  · intro zone id zoneFound idFound
    obtain ⟨⟨n, rfl⟩, ⟨m, rfl⟩⟩ := signed zone id zoneFound idFound
    exact ⟨readsAsPart_int64 n, readsAsPart_int64 m, colon_notMem_plainText_int64 n⟩

/-- With the built-in rules clean parameters are settled. -/
theorem settled (builtIn : c.rules = .builtIn) (clean : c.Clean tag params) :
    c.Settled tag params := by
  rcases RuleTable.rulesFor_builtIn tag with
    ⟨tag_eq, rules⟩ | ⟨tag_eq, rules⟩ | ⟨tag_eq, rules⟩ | ⟨tag_eq, rules⟩ | rules
  all_goals
    have compilerRules := rules
    rw [← builtIn] at compilerRules
  · refine settled_of_pair compilerRules (fun v => ⟨?_, ?_⟩) (by decide) ⟨?_, ?_⟩ ?_ ?_
    · exact admits_builtIn builtIn compilerRules (by decide) (.inl (by decide))
    · exact admits_builtIn builtIn compilerRules (by decide) (.inl (by decide))
    · exact clean.get?_interfaceField rules (by decide) (by decide)
    · exact clean.get?_interfaceField rules (by decide) (by decide)
    · intro key v found _
      exact clean.admits found (by rw [tag_eq]; simp)
    · intro v object found members
      obtain ⟨nonempty, each⟩ := clean.teleport tag_eq v object found members
      exact ⟨nonempty, fun key u member =>
        ⟨(each key u member).1, numeric_of_text?_eq_none (each key u member).2⟩⟩
  · exact clean.settled_of_signedPair builtIn rules (by decide) (by rw [tag_eq]; decide)
      (clean.summon tag_eq)
  · exact clean.settled_of_signedPair builtIn rules (by decide) (by rw [tag_eq]; decide)
      (clean.createItem tag_eq)
  · refine settled_of_json compilerRules (fun s nonempty => ?_) ?_ ?_
    · exact admits_builtIn builtIn compilerRules (by decide) (.inr (isEmptyMark_text nonempty))
    · intro key v found other
      exact clean.admits found fun eq => other (Prod.mk.inj eq).2
    · intro v found
      exact (clean.script tag_eq v found).symm
  · refine settled_of_no_rule compilerRules fun key v found => ?_
    refine clean.admits found fun eq => ?_
    rw [(Prod.mk.inj eq).1] at rules
    exact absurd rules (by decide)

end Clean

mutual

/-- The registry knows the effects of the tree, its chances are percentages, and its parameters are
clean. -/
def CleanNode (c : Compiler) : Node → Prop
  | .effect id params _ _ chance =>
    (∃ tag, c.registry.tag? id = some tag ∧ c.Clean tag params) ∧ chance.toNat ≤ 100
  | .gate type params _ onPass onFail =>
    c.Clean type.tag params ∧ CleanNodes c onPass ∧ CleanNodes c onFail
termination_by structural node => node

/-- The trees are clean. -/
def CleanNodes (c : Compiler) : List Node → Prop
  | [] => True
  | node :: rest => CleanNode c node ∧ CleanNodes c rest
termination_by structural nodes => nodes

end

mutual

/-- A clean node survives the way to blocks and back. -/
theorem stable_of_cleanNode {c : Compiler} (builtIn : c.rules = .builtIn) :
    ∀ {n : Node}, c.CleanNode n → c.Stable n
  | .effect _ _ _ _ _, ⟨⟨tag, known, clean⟩, percent⟩ =>
    ⟨⟨tag, known, clean.settled builtIn⟩, percent⟩
  | .gate _ _ _ _ _, ⟨clean, pass, fail⟩ =>
    ⟨clean.settled builtIn, stableAll_of_cleanNodes builtIn pass,
      stableAll_of_cleanNodes builtIn fail⟩

theorem stableAll_of_cleanNodes {c : Compiler} (builtIn : c.rules = .builtIn) :
    ∀ {nodes : List Node}, c.CleanNodes nodes → c.StableAll nodes
  | [], _ => trivial
  | _ :: _, ⟨clean, rest⟩ =>
    ⟨stable_of_cleanNode builtIn clean, stableAll_of_cleanNodes builtIn rest⟩

end

/-! ## Documents -/

/-- Loading and compiling leaves a document of clean nodes as it was, if their orders count up from
zero. -/
theorem document_rebuild_ofNodes {c : Compiler} {nodes : List Node} {count : Nat}
    (builtIn : c.rules = .builtIn)
    (orders : Node.ordersOf nodes = (List.range count).map UInt32.ofNat) (small : count < words32)
    (clean : c.CleanNodes nodes) :
    c.document (c.rebuild (.ofNodes nodes)) = .ofNodes nodes := by
  have size : Node.sizes nodes = count := by
    rw [← Node.length_ordersOf, orders, List.length_map, List.length_range]
  have numbered : Node.NumberedAll 0 nodes := by
    rw [Node.NumberedAll, orders, size, List.range_eq_range']
    rfl
  exact document_rebuild_of_stable builtIn (stableAll_of_cleanNodes builtIn clean) numbered
    (by rw [size]; exact Nat.le_of_lt small)

/-- A gate before a summons, and a script after the gate. -/
def gatedNodes : List Node := [
  .gate .chance (Dict.ofList [("percentage", .int64 50)]) 0
    [.effect 7 (Dict.ofList [("creatureZoneId", .int64 3), ("creatureId", .int64 12)]) 1
      (some .onHit) 75] [],
  .effect 9 (Dict.ofList [("args", .array [.int64 1])]) 2 none 100]

theorem document_rebuild_gatedNodes :
    Node.ordersOf gatedNodes = (List.range 3).map UInt32.ofNat ∧
      twoEffects.document (twoEffects.rebuild (.ofNodes gatedNodes)) = .ofNodes gatedNodes := by
  have orders : Node.ordersOf gatedNodes = (List.range 3).map UInt32.ofNat := by decide
  have gate : twoEffects.Clean "gate_chance"
      (Dict.ofList [("percentage", .int64 50)]) := by
    constructor
    iterate 4 exact Dict.forall_get? (by decide +kernel)
    all_goals exact fun tag => absurd tag (by decide)
  have summon : twoEffects.Clean "effect_summon"
      (Dict.ofList [("creatureZoneId", .int64 3), ("creatureId", .int64 12)]) := by
    constructor
    iterate 4 exact Dict.forall_get? (by decide +kernel)
    · rintro - zone id zoneFound idFound
      cases zoneFound
      cases idFound
      exact ⟨⟨3, rfl⟩, ⟨12, rfl⟩⟩
    all_goals exact fun tag => absurd tag (by decide)
  have script : twoEffects.Clean "effect_script" (Dict.ofList [("args", .array [.int64 1])]) := by
    constructor
    iterate 4 exact Dict.forall_get? (by decide +kernel)
    iterate 3 exact fun tag => absurd tag (by decide)
    rintro - v found
    cases found
    exact ⟨by decide, Json.Number.readsBack_integer _ _, trivial⟩
  have summons : twoEffects.CleanNode (.effect 7
      (Dict.ofList [("creatureZoneId", .int64 3), ("creatureId", .int64 12)]) 1 (some .onHit) 75) :=
    ⟨⟨_, by decide, summon⟩, by decide⟩
  have last : twoEffects.CleanNode
      (.effect 9 (Dict.ofList [("args", .array [.int64 1])]) 2 none 100) :=
    ⟨⟨_, by decide, script⟩, by decide⟩
  exact ⟨orders, document_rebuild_ofNodes rfl orders (by decide)
    ⟨⟨gate, ⟨summons, trivial⟩, trivial⟩, last, trivial⟩⟩

end Compiler

end EffectFlow
