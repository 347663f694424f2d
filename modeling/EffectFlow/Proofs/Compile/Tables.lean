import EffectFlow.Proofs.Compile.Renaming
import EffectFlow.Proofs.Registry.Agreement
import EffectFlow.Proofs.Registry.Runs
import EffectFlow.Proofs.Validation.Layers
import EffectFlow.Rebuild.Layout

/-!
# The order of the tables of a registry

Registries that agree are the same to whoever compiles a program, rebuilds a document or validates
one (`Registry.Agrees.compile_eq`, `Registry.Agrees.rebuildInto_eq`, `Registry.Agrees.validate_eq`).

So the order of the tables in a snapshot does not matter: a snapshot with other orders is installed
exactly if this one is, and with the same effect on all programs and documents
(`Snapshot.install_reordered`).
-/

namespace EffectFlow

open Json (Value)

namespace Registry.Agrees

variable {r r' : Registry}

/-! ## Programs -/

/-- Registries that agree list the same fields for a tag. -/
theorem fieldsOf_eq (agrees : r.Agrees r') (rules : RuleTable) (tag : String) :
    fieldsOf r rules tag = fieldsOf r' rules tag := by
  have base : baseFields r tag = baseFields r' tag := by
    rw [baseFields, baseFields, agrees.effectNamed?_eq]
  rw [fieldsOf, fieldsOf, base]

/-- So their compilers treat blocks alike. -/
theorem alike (agrees : r.Agrees r') (rules : RuleTable) (config : Config) :
    Compiler.Alike ⟨r, rules, config⟩ ⟨r', rules, config⟩ where
  effectId? := by
    intro tag
    rw [Compiler.effectId?, Compiler.effectId?, agrees.resolve_eq]
  isPlaceholder := by
    intro tag
    rw [Compiler.isPlaceholder, Compiler.isPlaceholder, agrees.resolve_eq]
  blockParams := by
    intro b
    rw [Compiler.blockParams, Compiler.blockParams, Compiler.writtenFields, Compiler.writtenFields,
      Compiler.fieldsOf, Compiler.fieldsOf, agrees.fieldsOf_eq]

/-- Every program is compiled to the same. -/
theorem compile_eq (agrees : r.Agrees r') (rules : RuleTable) (config : Config) (p : Program) :
    Compiler.compile ⟨r, rules, config⟩ p = Compiler.compile ⟨r', rules, config⟩ p := by
  rw [(agrees.alike rules config).compile_eq (.refl p), List.map_id, Skip.rename_id, List.map_id]

/-! ## Documents -/

section Plans

variable {rules : RuleTable} {config : Config}

theorem plannedFields_eq (agrees : r.Agrees r') (tag : String) (params : Dict Value) :
    Compiler.plannedFields ⟨r, rules, config⟩ tag params =
      Compiler.plannedFields ⟨r', rules, config⟩ tag params := by
  rw [Compiler.plannedFields, Compiler.plannedFields, Compiler.fieldsOf, Compiler.fieldsOf,
    agrees.fieldsOf_eq]

mutual

/-- A node has the same plan under registries that agree. -/
theorem plan?_eq (agrees : r.Agrees r') : ∀ n : Node,
    Compiler.plan? ⟨r, rules, config⟩ n = Compiler.plan? ⟨r', rules, config⟩ n
  | .effect id params _ _ _ => by
    rw [Compiler.plan?, Compiler.plan?, agrees.tag?_eq]
    exact Option.map_congr fun tag _ => by rw [agrees.plannedFields_eq]
  | .gate type params _ onPass onFail => by
    rw [Compiler.plan?, Compiler.plan?, agrees.plannedFields_eq, agrees.orderedPlans_eq onPass,
      agrees.orderedPlans_eq onFail]

theorem orderedPlans_eq (agrees : r.Agrees r') : ∀ nodes : List Node,
    Compiler.orderedPlans ⟨r, rules, config⟩ nodes =
      Compiler.orderedPlans ⟨r', rules, config⟩ nodes
  | [] => rfl
  | n :: rest => by
    rw [Compiler.orderedPlans, Compiler.orderedPlans, agrees.plan?_eq n,
      agrees.orderedPlans_eq rest]

end

end Plans

/-- Every document is rebuilt to the same, whatever program it is added to. -/
theorem rebuildInto_eq (agrees : r.Agrees r') (rules : RuleTable) (config : Config) (d : Document)
    (p : Program) :
    Compiler.rebuildInto ⟨r, rules, config⟩ d p = Compiler.rebuildInto ⟨r', rules, config⟩ d p := by
  rw [Compiler.rebuildInto, Compiler.rebuildInto, Compiler.plans, Compiler.plans,
    agrees.orderedPlans_eq]

/-- A stored node has the same problems with its schema under registries that agree. -/
theorem schemaProblems_eq (agrees : r.Agrees r') (w : StoredNode) :
    Validator.schemaProblems r w = Validator.schemaProblems r' w := by
  have parameter (effect : String) (name : String) (spec : Parameter) :
      Validator.parameterProblem? r effect w.params name spec =
        Validator.parameterProblem? r' effect w.params name spec := by
    simp only [Validator.parameterProblem?, Validator.referenceProblem?, agrees.isNone_entity?_eq]
  simp only [Validator.schemaProblems, agrees.isReady_eq, agrees.effect?_eq, parameter]

/-- Every document has the same report. -/
theorem validate_eq (agrees : r.Agrees r') (config : Config) (d : Document) :
    Validator.validate ⟨r, config⟩ d = Validator.validate ⟨r', config⟩ d := by
  have same : Validator.SameOn (fun _ => true) ⟨r, config⟩ ⟨r', config⟩ :=
    ⟨fun _ => ⟨agrees.isReady_eq, agrees.schemaProblems_eq⟩, fun _ => rfl⟩
  have findings := same.filter_findings d
  rw [List.filter_true, List.filter_true] at findings
  exact congrArg Report.ofFindings findings

end Registry.Agrees

/-! ## Reordered snapshots -/

namespace Snapshot

variable {s s' : Snapshot}

/-- The order of the tables of a snapshot matters neither to whether it is installed nor, once it
is, to any program or document. -/
theorem install_reordered (reordered : s.Reordered s') (r r' : Registry) :
    ((∃ q, r.install s = .ok () q) ↔ ∃ q', r'.install s' = .ok () q') ∧
      ∀ q q', r.install s = .ok () q → r'.install s' = .ok () q' →
        ∀ (rules : RuleTable) (config : Config),
          (∀ p, Compiler.compile ⟨q, rules, config⟩ p = Compiler.compile ⟨q', rules, config⟩ p) ∧
          (∀ d, Compiler.rebuild ⟨q, rules, config⟩ d = Compiler.rebuild ⟨q', rules, config⟩ d) ∧
          (∀ d p, Compiler.rebuildInto ⟨q, rules, config⟩ d p =
            Compiler.rebuildInto ⟨q', rules, config⟩ d p) ∧
          ∀ d, Validator.validate ⟨q, config⟩ d = Validator.validate ⟨q', config⟩ d := by
  refine ⟨?_, fun q q' made made' rules config => ?_⟩
  · rw [Registry.exists_install_iff, Registry.exists_install_iff]
    exact reordered.sound_iff
  · have agrees := reordered.agrees (Registry.snapshot_of_install made)
      (Registry.snapshot_of_install made')
    refine ⟨agrees.compile_eq rules config, fun d => ?_, agrees.rebuildInto_eq rules config,
      agrees.validate_eq config⟩
    exact congrArg Prod.snd (agrees.rebuildInto_eq rules config d .empty)

/-- Two effects, and two creatures of one zone. -/
def wolves : Snapshot where
  effects := [
    ⟨7, "Summon", Dict.ofList [("creatureId", { reference := some .creature })]⟩,
    ⟨9, "Script", ∅⟩]
  creatures := [⟨3, 12, "wolf"⟩, ⟨3, 13, "old wolf"⟩]

/-- The same in the other order. -/
def reversedWolves : Snapshot where
  effects := wolves.effects.reverse
  creatures := wolves.creatures.reverse

/-- A block that summons the wolf. -/
def wolfProgram : Program where
  blocks := [{ tag := "effect_summon", fields := Dict.ofList [("creatureRef", .text "3:12")] }]
  chains := [0]

/-- An effect that summons the wolf. -/
def wolfDocument : Document := ⟨[
  ⟨some 7, none, Dict.ofList [("creatureZoneId", .number (.ofNat 3 (by decide))),
    ("creatureId", .number (.ofNat 12 (by decide)))], 0, none, 100⟩]⟩

theorem outline_wolfProgram : wolfProgram.outline = [.plain 0 "effect_summon"] := by
  have chain : wolfProgram.chain 0 = [0] := by decide +kernel
  show wolfProgram.outlineWithin [] (wolfProgram.chain 0) ++ [] = _
  rw [chain, Program.outlineWithin_cons_plain rfl rfl, Program.outlineWithin, List.append_nil]

theorem install_reordered_wolves : ∃ q q',
    Registry.empty.install wolves = .ok () q ∧ Registry.empty.install reversedWolves = .ok () q' ∧
      Compiler.compile { registry := q } wolfProgram =
        Compiler.compile { registry := q' } wolfProgram ∧
      (Compiler.compile { registry := q' } wolfProgram).document = wolfDocument ∧
      Compiler.rebuild { registry := q } wolfDocument =
        Compiler.rebuild { registry := q' } wolfDocument ∧
      (Compiler.rebuild { registry := q' } wolfDocument).blocks.map (·.tag) = ["effect_summon"] ∧
      ∀ d, Validator.validate { registry := q } d = Validator.validate { registry := q' } d := by
  have reordered : wolves.Reordered reversedWolves :=
    ⟨(List.reverse_perm _).symm, (List.reverse_perm _).symm, .rfl, .rfl⟩
  obtain ⟨-, same⟩ := install_reordered reordered .empty .empty
  -- Both are installed: their registries are found by evaluation.
  refine ⟨_, _, rfl, rfl, ?_⟩
  obtain ⟨compile, rebuild, -, validate⟩ := same _ _ rfl rfl .builtIn .standard
  refine ⟨compile wolfProgram, ?_, rebuild wolfDocument, ?_, validate⟩
  · rw [Compiler.compile, outline_wolfProgram]
    decide +kernel
  · decide +kernel

end Snapshot

end EffectFlow
