import EffectFlow.Proofs.Rebuild.BlockParams
import EffectFlow.Proofs.Validation.Compiled

/-!
# What nodes carry of their blocks

Apart from what rules write, a node has a field of its block as a parameter exactly if the field is
listed for the tag, is not reserved, is read by no rule and is not left out for being empty.  Then
it has the same value (`Compiler.get?_blockParams_iff`).  This holds for any rules.

The built-in rules write no reserved name, and one omittable field only, which is a field of JSON
text.  So neither reserved names nor the fields that rules read nor omittable fields that are empty
show up in any node of a program or of its document (`Compiler.carried_compile`).
-/

namespace EffectFlow

open Json (Value)

/-- The fields that stand on a block and never among parameters, each with its tag. -/
def blockOnlyNames : List (String × String) := [
  ("effect_teleport", "targetRoomZoneId"),
  ("effect_teleport", "targetRoomId"),
  ("effect_summon", "creatureRef"),
  ("effect_create_item", "itemRef")]

namespace RuleTable

/-- Rules read the fields that stand on blocks only, and write none of them. -/
theorem of_mem_blockOnlyNames {tag name : String} (mem : (tag, name) ∈ blockOnlyNames) :
    name ∈ builtIn.blockFields tag ∧ name ∉ (builtIn.rulesFor tag).flatMap (·.paramKeys) := by
  have each : ∀ e ∈ blockOnlyNames, e.2 ∈ builtIn.blockFields e.1 ∧
      e.2 ∉ (builtIn.rulesFor e.1).flatMap (·.paramKeys) := by decide
  exact each (tag, name) mem

/-- The only omittable parameter that a rule writes is that of a JSON rule. -/
theorem rulesFor_of_isOmittable {tag key : String} (omittable : isOmittable tag key = true)
    (mem : key ∈ (builtIn.rulesFor tag).flatMap (·.paramKeys)) :
    builtIn.rulesFor tag = [.json key] := by
  have each : ∀ e ∈ omittableFields, e.2 ∈ (builtIn.rulesFor e.1).flatMap (·.paramKeys) →
      builtIn.rulesFor e.1 = [.json e.2] := by decide
  exact each (tag, key) (List.contains_iff_mem.1 omittable) mem

end RuleTable

namespace Compiler

/-- The parameters are exactly what the block carries. -/
structure Carried (c : Compiler) (b : Block) (params : Dict Value) : Prop where
  /-- Where no rule writes, a parameter is a field of the block with its value. -/
  verbatim : ∀ key, key ∉ (c.rules.rulesFor b.tag).flatMap (·.paramKeys) → ∀ v,
    params.get? key = some v ↔
      key ∈ c.fieldsOf b.tag ∧ isReservedName key = false ∧ key ∉ c.rules.blockFields b.tag ∧
        b.fields.get? key = some v ∧ ¬ (isOmittable b.tag key = true ∧ isEmptyMark v = true)
  /-- No field that stands on blocks only is a parameter. -/
  blockOnly : ∀ key, (b.tag, key) ∈ blockOnlyNames → params.get? key = none
  /-- No reserved name is a parameter. -/
  unreserved : ∀ key, isReservedName key = true → params.get? key = none
  /-- An omittable field that is empty or absent is no parameter. -/
  omitted : ∀ key, isOmittable b.tag key = true →
    (∀ v, b.fields.get? key = some v → isEmptyMark v = true) → params.get? key = none

variable {c : Compiler} {p : Program} {b : Block}

/-- Where no rule writes, a parameter is a field of the block that takes part. -/
theorem get?_blockParams_iff {key : String} {v : Value}
    (outside : key ∉ (c.rules.rulesFor b.tag).flatMap (·.paramKeys)) :
    (c.blockParams b).get? key = some v ↔
      key ∈ c.fieldsOf b.tag ∧ isReservedName key = false ∧ key ∉ c.rules.blockFields b.tag ∧
        b.fields.get? key = some v ∧ ¬ (isOmittable b.tag key = true ∧ isEmptyMark v = true) := by
  rw [blockParams_eq_fold, get?_fold_of_notMem outside, Dict.get?_filter, get?_writtenFields,
    Option.filter_eq_some_iff, Option.filter_eq_some_iff, admits]
  simp only [Bool.and_eq_true, Bool.not_eq_true', List.contains_iff_mem, ← Bool.not_eq_true]
  constructor
  · rintro ⟨⟨found, ⟨listed, plain⟩, kept⟩, unread⟩
    exact ⟨listed, plain, unread, found, kept⟩
  · rintro ⟨listed, plain, unread, found, kept⟩
    exact ⟨⟨found, ⟨listed, plain⟩, kept⟩, unread⟩

/-- With the built-in rules the parameters of a block are exactly what it carries. -/
theorem carried_blockParams (builtIn : c.rules = .builtIn) (b : Block) :
    c.Carried b (c.blockParams b) where
  verbatim key outside v := get?_blockParams_iff outside
  blockOnly key mem := by
    obtain ⟨read, outside⟩ := RuleTable.of_mem_blockOnlyNames mem
    rw [← builtIn] at read outside
    refine Option.eq_none_iff_forall_ne_some.2 fun v found => ?_
    exact ((get?_blockParams_iff outside).1 found).2.2.1 read
  unreserved key reserved := by
    have outside : key ∉ (c.rules.rulesFor b.tag).flatMap (·.paramKeys) := by
      intro mem
      rw [builtIn] at mem
      rw [isReservedName_of_mem_paramKeys mem] at reserved
      cases reserved
    refine Option.eq_none_iff_forall_ne_some.2 fun v found => ?_
    have plain := ((get?_blockParams_iff outside).1 found).2.1
    rw [reserved] at plain
    cases plain
  omitted key omittable empty := by
    by_cases written : key ∈ (c.rules.rulesFor b.tag).flatMap (·.paramKeys)
    · rw [builtIn] at written
      have rules := RuleTable.rulesFor_of_isOmittable omittable written
      rw [← builtIn] at rules
      have absent : (c.writtenFields b).get? key = none := by
        rw [get?_writtenFields, Option.filter_eq_none_iff]
        intro v found
        simp [admits, omittable, empty v found]
      rw [get?_blockParams_json rules, if_pos rfl, absent, Option.map_none]
    · refine Option.eq_none_iff_forall_ne_some.2 fun v found => ?_
      have field := ((get?_blockParams_iff written).1 found).2.2.2
      exact field.2 ⟨omittable, empty v field.1⟩

end Compiler

/-- Without its branches a lowered node has the parameters of the node. -/
theorem Node.plainParams_lower {n : Node} (free : BranchFree n.params) :
    n.lower.plainParams = n.params := by
  cases n with
  | effect => exact plainParams_of_branchFree free
  | gate => exact plainParams_gateParams free _ _

namespace Compiler

variable {c : Compiler}

/-- The parameters of every node are exactly what its block carries: of every node of a program at
any depth, and of every node of its document. -/
theorem carried_compile (builtIn : c.rules = .builtIn) (p : Program) :
    List.Forall₂
        (fun h n => c.BuiltFrom p h n ∧ ∃ b, p.block? h = some b ∧ c.Carried b n.params)
        (c.writtenOf p.outline) (Node.preorderAll (c.compile p).nodes) ∧
      ∀ path e, Document.entry? (c.document p) path = some e →
        ∃ n h b, (path, n) ∈ Node.locatedAll .top 0 (c.compile p).nodes ∧ e = n.lower.entry ∧
          c.BuiltFrom p h n ∧ p.block? h = some b ∧ c.Carried b n.lower.plainParams := by
  have carried : ∀ h n, c.BuiltFrom p h n → ∃ b, p.block? h = some b ∧ c.Carried b n.params := by
    intro h n built
    cases built with
    | effect there | gate there => exact ⟨_, there, carried_blockParams builtIn _⟩
  refine ⟨(forall₂_builtFrom c p).imp fun h n built => ⟨built, carried h n built⟩, ?_⟩
  intro path e found
  obtain ⟨n, located, rfl⟩ := (entry?_document_iff builtIn).1 found
  have mem : n ∈ Node.preorderAll (c.compile p).nodes := by
    rw [← Node.map_snd_locatedAll _ .top 0]
    exact List.mem_map.2 ⟨_, located, rfl⟩
  obtain ⟨h, built⟩ := exists_builtFrom mem
  obtain ⟨b, there, exact_params⟩ := carried h n built
  refine ⟨n, h, b, located, rfl, built, there, ?_⟩
  rwa [Node.plainParams_lower fun branch =>
    exact_params.unreserved _ (isReservedName_key branch)]

theorem carried_compile_gatedSummons :
    ∃ gate summons script,
      Node.preorderAll (twoEffects.compile gatedSummons).nodes = [gate, summons, script] ∧
        gate.params.get? "percentage" = some (.number (.ofNat 50 (by decide))) ∧
        summons.params.get? "creatureRef" = none ∧ summons.params.get? "trigger" = none ∧
        script.params.get? "scriptId" = none := by
  have written : twoEffects.writtenOf gatedSummons.outline = [0, 1, 2] := by
    rw [outline_gatedSummons]
    decide
  obtain ⟨inStep, -⟩ := carried_compile (c := twoEffects) rfl gatedSummons
  rw [written] at inStep
  obtain ⟨gate, _, ⟨-, _, ⟨⟩, gateCarries⟩, below, nodes⟩ := List.forall₂_cons_left_iff.1 inStep
  obtain ⟨summons, _, ⟨-, _, ⟨⟩, summonsCarries⟩, after, rfl⟩ := List.forall₂_cons_left_iff.1 below
  obtain ⟨script, _, ⟨-, _, ⟨⟩, scriptCarries⟩, last, rfl⟩ := List.forall₂_cons_left_iff.1 after
  rw [List.forall₂_nil_left_iff.1 last] at nodes
  refine ⟨gate, summons, script, nodes, ?_, ?_, ?_, ?_⟩
  · exact (gateCarries.verbatim "percentage" (by decide) _).2 (by decide +kernel)
  · exact summonsCarries.blockOnly "creatureRef" (by decide)
  · exact summonsCarries.unreserved "trigger" (by decide)
  · refine Option.eq_none_iff_forall_ne_some.2 fun v found => ?_
    have field := ((scriptCarries.verbatim "scriptId" (by decide) v).1 found).2.2.2.1
    cases field

end Compiler

end EffectFlow
