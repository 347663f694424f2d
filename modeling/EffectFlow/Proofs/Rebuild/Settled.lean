import EffectFlow.Proofs.Fields.Rules
import EffectFlow.Rebuild.Plan

/-!
# Settled parameters

The parameters of a node are *settled* for a tag if they survive the way to the fields of a new
block and back (`Compiler.Settled.blockParams`).  Each parameter is either left alone by the rules
of the tag and may stand on a block as it is, or the rules restore fields for it that they turn
into the same parameter again.

The trigger and the chance stand in fields of their own and survive by themselves
(`Compiler.blockTrigger?_withTriggerAndChance`, `Compiler.blockChance_withTriggerAndChance`).
-/

namespace EffectFlow

open Json (Value Number)

namespace Compiler

/-! ## Fields that take part -/

/-- Does a field of the name with the value take part in the parameters of a block? -/
def admits (c : Compiler) (tag name : String) (v : Value) : Bool :=
  (c.fieldsOf tag).contains name && !isReservedName name && !(isOmittable tag name && isEmptyMark v)

theorem get?_writtenFields (c : Compiler) (b : Block) (name : String) :
    (c.writtenFields b).get? name = (b.fields.get? name).filter (c.admits b.tag name) :=
  Dict.get?_filter _ _ _

/-- Turns fields into parameters by each rule in turn. -/
def fold (rules : List FieldRule) (fields params : Dict Value) : Dict Value :=
  rules.foldl (fun params rule => rule.toParams fields params) params

theorem blockParams_eq_fold (c : Compiler) (b : Block) :
    c.blockParams b = fold (c.rules.rulesFor b.tag) (c.writtenFields b)
      ((c.writtenFields b).filter fun name _ => !(c.rules.blockFields b.tag).contains name) := rfl

/-- Rules leave all other parameters as they are. -/
theorem get?_fold_of_notMem {rules : List FieldRule} {fields params : Dict Value} {key : String}
    (other : key ∉ rules.flatMap (·.paramKeys)) :
    (fold rules fields params).get? key = params.get? key := by
  induction rules generalizing params with
  | nil => rfl
  | cons rule rest ih =>
    rw [List.flatMap_cons, List.mem_append, not_or] at other
    exact (ih other.2).trans (FieldRule.get?_toParams_of_notMem other.1)

/-- Rules depend on the fields that they read, and on no others. -/
theorem fold_congr {rules : List FieldRule} {fields fields' : Dict Value}
    (h : ∀ name ∈ rules.flatMap (·.blockFields), fields.get? name = fields'.get? name)
    (params : Dict Value) : fold rules fields params = fold rules fields' params := by
  induction rules generalizing params with
  | nil => rfl
  | cons rule rest ih =>
    have here : rule.toParams fields params = rule.toParams fields' params :=
      FieldRule.toParams_congr
        (fun name mem => h name (List.mem_flatMap.2 ⟨rule, List.mem_cons_self, mem⟩)) params
    have later : ∀ name ∈ rest.flatMap (·.blockFields), fields.get? name = fields'.get? name := by
      intro name mem
      rw [List.flatMap_cons] at h
      exact h name (List.mem_append_right _ mem)
    show fold rest fields (rule.toParams fields params) = fold rest fields' _
    rw [here, ih later]

/-- A planned field is restored by a rule, or it is a listed parameter that no rule used. -/
theorem get?_plannedFields (c : Compiler) (tag : String) (params : Dict Value) (name : String) :
    (c.plannedFields tag params).get? name =
      ((params.get? name).filter fun _ =>
        !(restore (c.rules.rulesFor tag) params).used.contains name && !isReservedName name &&
          (c.fieldsOf tag).contains name).or
        ((restore (c.rules.rulesFor tag) params).fields.get? name) := by
  rw [plannedFields, Dict.get?_foldl_insert _ _ _ (Dict.ascending _)]
  rw [← Dict.get?_filter params fun key _ =>
    !(restore (c.rules.rulesFor tag) params).used.contains key && !isReservedName key &&
      (c.fieldsOf tag).contains key]
  rfl

/-! ## Settled parameters -/

/-- The parameters survive the way to the fields of a block and back. -/
structure Settled (c : Compiler) (tag : String) (params : Dict Value) : Prop where
  /-- What the rules leave alone may stand on a block, and no rule reads it there. -/
  kept : ∀ key v, params.get? key = some v →
    key ∉ (restore (c.rules.rulesFor tag) params).used →
      c.admits tag key v = true ∧ key ∉ c.rules.blockFields tag
  /-- What the rules restore may stand on a block, and they read it there. -/
  restored : ∀ name v, (restore (c.rules.rulesFor tag) params).fields.get? name = some v →
    c.admits tag name v = true ∧ name ∈ c.rules.blockFields tag
  /-- The rules turn what they restored into the parameters they used up. -/
  folded : fold (c.rules.rulesFor tag) (restore (c.rules.rulesFor tag) params).fields
    (params.filter fun key _ => !(restore (c.rules.rulesFor tag) params).used.contains key) = params

namespace Settled

variable {c : Compiler} {tag : String} {params : Dict Value}

/-- The fields that take part are the planned fields. -/
theorem get?_written (settled : c.Settled tag params) (name : String) :
    ((c.plannedFields tag params).get? name).filter (c.admits tag name) =
      ((params.get? name).filter fun _ =>
        !(restore (c.rules.rulesFor tag) params).used.contains name).or
        ((restore (c.rules.rulesFor tag) params).fields.get? name) := by
  rw [get?_plannedFields]
  cases found : params.get? name with
  | none =>
    rw [Option.filter_none, Option.filter_none, Option.none_or]
    cases given : (restore (c.rules.rulesFor tag) params).fields.get? name with
    | none => rfl
    | some v => exact Option.filter_some_pos (settled.restored name v given).1
  | some v =>
    by_cases used : name ∈ (restore (c.rules.rulesFor tag) params).used
    · rw [Option.filter_some_neg (by simp [used]), Option.filter_some_neg (by simp [used]),
        Option.none_or]
      cases given : (restore (c.rules.rulesFor tag) params).fields.get? name with
      | none => rfl
      | some u => exact Option.filter_some_pos (settled.restored name u given).1
    · have admitted := (settled.kept name v found used).1
      have plain : ((c.fieldsOf tag).contains name && !isReservedName name) = true :=
        (Bool.and_eq_true_iff.1 admitted).1
      rw [Bool.and_eq_true] at plain
      rw [Option.filter_some_pos (by simp only [plain.1, plain.2]; simp [used]),
        Option.filter_some_pos (by simp [used]), Option.some_or]
      exact Option.filter_some_pos admitted

/-- Settled parameters are those of every block that holds their fields. -/
theorem blockParams (settled : c.Settled tag params) {b : Block} (tag_eq : b.tag = tag)
    (fields : ∀ name, isReservedName name = false →
      b.fields.get? name = (c.plannedFields tag params).get? name) : c.blockParams b = params := by
  subst tag_eq
  have written : ∀ name, (c.writtenFields b).get? name =
      ((params.get? name).filter fun _ =>
        !(restore (c.rules.rulesFor b.tag) params).used.contains name).or
        ((restore (c.rules.rulesFor b.tag) params).fields.get? name) := by
    intro name
    rw [get?_writtenFields, ← settled.get?_written]
    cases reserved : isReservedName name with
    | false => rw [fields name reserved]
    | true =>
      have refused : ∀ v, c.admits b.tag name v = false := fun v => by simp [admits, reserved]
      rw [Option.filter_eq_none_iff.2 fun v _ => by simp [refused],
        Option.filter_eq_none_iff.2 fun v _ => by simp [refused]]
  have atRules : ∀ name ∈ c.rules.blockFields b.tag, (c.writtenFields b).get? name =
      (restore (c.rules.rulesFor b.tag) params).fields.get? name := by
    intro name mem
    rw [written]
    cases found : params.get? name with
    | none => rfl
    | some v =>
      have used : name ∈ (restore (c.rules.rulesFor b.tag) params).used :=
        Decidable.byContradiction fun unused => (settled.kept name v found unused).2 mem
      rw [Option.filter_some_neg (by simp [used]), Option.none_or]
  have apart : ((c.writtenFields b).filter fun name _ =>
        !(c.rules.blockFields b.tag).contains name) =
      params.filter fun key _ =>
        !(restore (c.rules.rulesFor b.tag) params).used.contains key := by
    refine Dict.ext_get? fun name => ?_
    rw [Dict.get?_filter, Dict.get?_filter]
    by_cases mem : name ∈ c.rules.blockFields b.tag
    · rw [Option.filter_eq_none_iff.2 fun v _ => by simp [mem]]
      refine (Option.filter_eq_none_iff.2 fun v found => ?_).symm
      have used : name ∈ (restore (c.rules.rulesFor b.tag) params).used :=
        Decidable.byContradiction fun unused => (settled.kept name v found unused).2 mem
      simp [used]
    · have nothing : (restore (c.rules.rulesFor b.tag) params).fields.get? name = none :=
        Option.eq_none_iff_forall_ne_some.2 fun v given => mem (settled.restored name v given).2
      rw [written, nothing, Option.or_none, Option.filter_filter]
      simp [mem]
  rw [blockParams_eq_fold, apart, fold_congr atRules, settled.folded]

end Settled

/-! ## Trigger and chance -/

theorem get?_withTriggerAndChance (fields : Dict Value) (trigger : Option Trigger) (chance : UInt8)
    {name : String} (plain : isReservedName name = false) :
    (withTriggerAndChance fields trigger chance).get? name = fields.get? name := by
  simp only [isReservedName, Bool.or_eq_false_iff, beq_eq_false_iff_ne] at plain
  have notTrigger : triggerKey ≠ name := fun eq => plain.1.2 eq.symm
  have notChance : chanceKey ≠ name := fun eq => plain.2 eq.symm
  simp only [withTriggerAndChance]
  rw [Dict.get?_insert, if_neg notChance]
  cases trigger with
  | none => rfl
  | some t => rw [Dict.get?_insert, if_neg notTrigger]

/-- Planned fields hold no trigger. -/
theorem Settled.get?_triggerKey {c : Compiler} {tag : String} {params : Dict Value}
    (settled : c.Settled tag params) : (c.plannedFields tag params).get? triggerKey = none := by
  have reserved : isReservedName triggerKey = true := by decide
  rw [get?_plannedFields, Option.filter_eq_none_iff.2 fun v _ => by simp [reserved], Option.none_or]
  refine Option.eq_none_iff_forall_ne_some.2 fun v given => ?_
  have admitted := (settled.restored triggerKey v given).1
  simp [admits, reserved] at admitted

/-- The trigger of a node is read back from its block. -/
theorem blockTrigger?_withTriggerAndChance {fields : Dict Value} {trigger : Option Trigger}
    {chance : UInt8} (silent : fields.get? triggerKey = none) {b : Block}
    (eq : b.fields = withTriggerAndChance fields trigger chance) : blockTrigger? b = trigger := by
  have found : b.fields.get? triggerKey = trigger.map fun t => .text t.name := by
    simp only [eq, withTriggerAndChance]
    rw [Dict.get?_insert, if_neg (by decide)]
    cases trigger with
    | none => exact silent
    | some t =>
      rw [Dict.get?_insert, if_pos rfl]
      rfl
  rw [blockTrigger?, found]
  cases trigger with
  | none => rfl
  | some t => exact Trigger.ofName?_name t

/-- Every percentage is the percentage of its own value. -/
theorem percent_ofInt? : ∀ n, n < 101 →
    percent ((Binary64.ofInt? (n : Nat)).getD default) = UInt8.ofNat n := by
  decide +kernel

theorem blockChance_withTriggerAndChance {fields : Dict Value} {trigger : Option Trigger}
    {chance : UInt8} (small : chance.toNat ≤ 100) {b : Block}
    (eq : b.fields = withTriggerAndChance fields trigger chance) : blockChance b = chance := by
  have found : b.fields.get? chanceKey = some (chanceValue chance) := by
    simp only [eq, withTriggerAndChance]
    rw [Dict.get?_insert, if_pos rfl]
  have read : percent ((Binary64.ofInt? (chance.toNat : Nat)).getD default) = chance := by
    rw [percent_ofInt? chance.toNat (by omega), UInt8.ofNat_toNat]
  rw [blockChance, found]
  exact read

end Compiler

end EffectFlow
