import EffectFlow.Proofs.Rebuild.Criteria

/-!
# Parameters of blocks are settled

With the built-in rules, the parameters that a block is compiled to are settled
(`Compiler.settled_blockParams`), unless a field of the block holds directly what a rule would
write there and could not restore: both parts of a reference, an object in the place of a pair, or
JSON that is nested too deeply for a text (`Block.Indirect`).
-/

namespace EffectFlow

open Json (Value Number)

/-! ## The built-in rules -/

namespace RuleTable

/-- The pair of the target of a teleport. -/
def teleportRule : FieldRule :=
  .pair "targetRoom" ⟨"targetRoomZoneId", "zoneId"⟩ ⟨"targetRoomId", "roomId"⟩

/-- Each tag has one built-in rule or none. -/
theorem rulesFor_builtIn (tag : String) :
    (tag = "effect_teleport" ∧ builtIn.rulesFor tag = [teleportRule]) ∨
      (tag = "effect_summon" ∧
        builtIn.rulesFor tag = [.reference "creatureRef" "creatureZoneId" "creatureId"]) ∨
      (tag = "effect_create_item" ∧
        builtIn.rulesFor tag = [.reference "itemRef" "itemZoneId" "itemId"]) ∨
      (tag = "effect_script" ∧ builtIn.rulesFor tag = [.json "args"]) ∨
      builtIn.rulesFor tag = [] := by
  by_cases teleport : tag = "effect_teleport"
  · exact .inl ⟨teleport, by rw [teleport]; rfl⟩
  by_cases summon : tag = "effect_summon"
  · exact .inr (.inl ⟨summon, by rw [summon]; rfl⟩)
  by_cases createItem : tag = "effect_create_item"
  · exact .inr (.inr (.inl ⟨createItem, by rw [createItem]; rfl⟩))
  by_cases script : tag = "effect_script"
  · exact .inr (.inr (.inr (.inl ⟨script, by rw [script]; rfl⟩)))
  · refine .inr (.inr (.inr (.inr ?_)))
    simp [rulesFor, builtIn, Ne.symm teleport, Ne.symm summon, Ne.symm createItem, Ne.symm script]

end RuleTable

/-! ## Blocks -/

/-- No field of the block holds directly what a rule writes and could not restore. -/
structure Block.Indirect (b : Block) : Prop where
  /-- A summoning block lacks one part of its reference. -/
  summon : b.tag = "effect_summon" →
    b.fields.get? "creatureZoneId" = none ∨ b.fields.get? "creatureId" = none
  /-- A creating block lacks one part of its reference. -/
  createItem : b.tag = "effect_create_item" →
    b.fields.get? "itemZoneId" = none ∨ b.fields.get? "itemId" = none
  /-- The target of a teleporting block is no object. -/
  teleport : b.tag = "effect_teleport" →
    ∀ v, b.fields.get? "targetRoom" = some v → v.members? = none
  /-- The arguments of a scripting block are a text, or not nested too deeply. -/
  script : b.tag = "effect_script" →
    ∀ v, b.fields.get? "args" = some v → v.text? = none → v.tree.depth ≤ Json.maxDepth

namespace Compiler

/-- The numbers in the arguments of a scripting block read back from their texts. -/
def ArgsReadBack (c : Compiler) (b : Block) : Prop :=
  b.tag = "effect_script" → ∀ v, (c.blockParams b).get? "args" = some v → v.tree.NumbersReadBack

variable {c : Compiler} {b : Block}

theorem admits_of_get?_writtenFields {name : String} {v : Value}
    (h : (c.writtenFields b).get? name = some v) :
    c.admits b.tag name v = true ∧ b.fields.get? name = some v := by
  rw [get?_writtenFields, Option.filter_eq_some_iff] at h
  exact ⟨h.2, h.1⟩

/-- The fields of rules may stand on a block. -/
theorem admits_of_mem_blockFields {tag name : String} {v : Value}
    (mem : name ∈ c.rules.blockFields tag) (plain : isReservedName name = false)
    (kept : isOmittable tag name = false ∨ isEmptyMark v = false) :
    c.admits tag name v = true := by
  have listed : name ∈ c.fieldsOf tag := by
    rw [fieldsOf, EffectFlow.fieldsOf, List.mem_eraseDups]
    exact List.mem_append_right _ mem
  have full : (isOmittable tag name && isEmptyMark v) = false := by
    rw [Bool.and_eq_false_iff]
    exact kept
  simp only [admits, plain, full]
  simp [listed]

theorem isEmptyMark_text {s : String} (nonempty : s ≠ "") :
    isEmptyMark (Value.text s) = false := by
  show s.isEmpty = false
  simp [nonempty]

/-- The fields that no rule reads. -/
def plainFields (c : Compiler) (b : Block) (read : List String) : Dict Value :=
  (c.writtenFields b).filter fun name _ => !read.contains name

/-- A plain field stands on the block, is admitted, and is read by no rule. -/
theorem of_get?_plainFields {read : List String} {name : String} {v : Value}
    (h : (c.plainFields b read).get? name = some v) :
    c.admits b.tag name v = true ∧ b.fields.get? name = some v ∧ name ∉ read := by
  rw [plainFields, Dict.get?_filter, Option.filter_eq_some_iff] at h
  obtain ⟨admitted, given⟩ := admits_of_get?_writtenFields h.1
  exact ⟨admitted, given, by simpa using h.2⟩

theorem get?_plainFields_of_mem {read : List String} {name : String} (mem : name ∈ read) :
    (c.plainFields b read).get? name = none := by
  refine Option.eq_none_iff_forall_ne_some.2 fun v given => ?_
  exact (of_get?_plainFields given).2.2 mem

theorem blockParams_of_rule {rule : FieldRule} (rules : c.rules.rulesFor b.tag = [rule]) :
    c.blockParams b = rule.toParams (c.writtenFields b) (c.plainFields b rule.blockFields) := by
  have fields : c.rules.blockFields b.tag = rule.blockFields := by
    rw [blockFields_of_rulesFor rules]
    exact List.append_nil _
  rw [blockParams_eq_fold, rules, fields]
  rfl

/-! ## One rule -/

/-- A reference rule takes the parts of the reference in its field. -/
theorem get?_blockParams_reference {field zoneKey idKey : String} {zone id : List Char}
    (rules : c.rules.rulesFor b.tag = [.reference field zoneKey idKey])
    (found : ((c.writtenFields b).get? field).bind FieldRule.referenceParts? = some (zone, id))
    (key : String) :
    (c.blockParams b).get? key =
      if idKey = key then some (referencePart id)
      else if zoneKey = key then some (referencePart zone)
      else (c.plainFields b [field]).get? key := by
  rw [blockParams_of_rule rules]
  simp only [FieldRule.toParams, found, Dict.get?_insert]
  rfl

/-- The parameters under a rule for references are settled, unless the block has both of them as
fields. -/
theorem settled_blockParams_reference {field zoneKey idKey : String}
    (rules : c.rules.rulesFor b.tag = [.reference field zoneKey idKey])
    (fieldAdmitted : ∀ v, c.admits b.tag field v = true)
    (apart : field ≠ zoneKey ∧ field ≠ idKey ∧ zoneKey ≠ idKey)
    (indirect : b.fields.get? zoneKey = none ∨ b.fields.get? idKey = none) :
    c.Settled b.tag (c.blockParams b) := by
  have atField : (c.plainFields b [field]).get? field = none :=
    get?_plainFields_of_mem List.mem_cons_self
  cases found : ((c.writtenFields b).get? field).bind FieldRule.referenceParts? with
  | none =>
    -- Without a reference both parts would have to come from fields of the block.
    have eq : c.blockParams b = c.plainFields b [field] := by
      rw [blockParams_of_rule rules]
      simp only [FieldRule.toParams, found]
      rfl
    rw [eq]
    refine settled_of_reference rules fieldAdmitted atField ?_ ?_
    · intro key v given _
      exact (of_get?_plainFields given).1
    · intro zone id zoneGiven idGiven
      have zoneField := (of_get?_plainFields zoneGiven).2.1
      have idField := (of_get?_plainFields idGiven).2.1
      rcases indirect with missing | missing
      · rw [missing] at zoneField
        cases zoneField
      · rw [missing] at idField
        cases idField
  | some pieces =>
    obtain ⟨zone, id⟩ := pieces
    obtain ⟨v, -, read⟩ := Option.bind_eq_some_iff.1 found
    obtain ⟨noColon, zoneSolid, idSolid⟩ := FieldRule.of_referenceParts? read
    have get?_eq := get?_blockParams_reference rules found
    have zoneHere : (c.blockParams b).get? zoneKey = some (referencePart zone) := by
      rw [get?_eq, if_neg (Ne.symm apart.2.2), if_pos rfl]
    have idHere : (c.blockParams b).get? idKey = some (referencePart id) := by
      rw [get?_eq, if_pos rfl]
    refine settled_of_reference rules fieldAdmitted ?_ ?_ ?_
    · rw [get?_eq, if_neg (Ne.symm apart.2.1), if_neg (Ne.symm apart.1), atField]
    · intro key v given spare
      rw [zoneHere, idHere] at spare
      have other : zoneKey ≠ key ∧ idKey ≠ key :=
        ⟨fun eq => by simpa using spare (.inl eq.symm),
          fun eq => by simpa using spare (.inr eq.symm)⟩
      rw [get?_eq, if_neg other.2, if_neg other.1] at given
      exact (of_get?_plainFields given).1
    · intro zoneValue idValue zoneGiven idGiven
      rw [zoneHere] at zoneGiven
      rw [idHere] at idGiven
      cases zoneGiven
      cases idGiven
      exact ⟨readsAsPart_referencePart zoneSolid, readsAsPart_referencePart idSolid,
        colon_notMem_plainText_referencePart noColon⟩

/-- A pair rule makes an object of its fields, if one of them is there. -/
theorem get?_blockParams_pair {key : String} {first second : PairMember}
    (rules : c.rules.rulesFor b.tag = [.pair key first second])
    (nonempty : (FieldRule.nested (c.writtenFields b) [first, second]).isEmpty = false)
    (k : String) :
    (c.blockParams b).get? k =
      if key = k then some (.object (FieldRule.nested (c.writtenFields b) [first, second]))
      else (c.plainFields b [first.field, second.field]).get? k := by
  rw [blockParams_of_rule rules]
  simp only [FieldRule.toParams, nonempty, Bool.false_eq_true, if_false, Dict.get?_insert]
  rfl

/-- The parameters under a rule for pairs are settled, unless the block has an object in place of
the pair. -/
theorem settled_blockParams_pair {key : String} {first second : PairMember}
    (rules : c.rules.rulesFor b.tag = [.pair key first second])
    (fieldsAdmitted : ∀ v,
      c.admits b.tag first.field v = true ∧ c.admits b.tag second.field v = true)
    (apart : key ≠ first.field ∧ key ≠ second.field ∧ first.field ≠ second.field)
    (indirect : ∀ v, b.fields.get? key = some v → v.members? = none) :
    c.Settled b.tag (c.blockParams b) := by
  have atFields : ∀ field ∈ [first.field, second.field],
      (c.plainFields b [first.field, second.field]).get? field = none :=
    fun field mem => get?_plainFields_of_mem mem
  have atFirst := atFields first.field List.mem_cons_self
  have atSecond := atFields second.field (List.mem_cons_of_mem _ List.mem_cons_self)
  cases empty : (FieldRule.nested (c.writtenFields b) [first, second]).isEmpty with
  | true =>
    have eq : c.blockParams b = c.plainFields b [first.field, second.field] := by
      rw [blockParams_of_rule rules]
      simp only [FieldRule.toParams, empty, if_true]
      rfl
    rw [eq]
    refine settled_of_pair rules fieldsAdmitted apart.2.2 ⟨atFirst, atSecond⟩ ?_ ?_
    · intro k v given _
      exact (of_get?_plainFields given).1
    · intro v object given members
      rw [indirect v (of_get?_plainFields given).2.1] at members
      cases members
  | false =>
    have get?_eq := get?_blockParams_pair rules empty
    refine settled_of_pair rules fieldsAdmitted apart.2.2 ?_ ?_ ?_
    · rw [get?_eq, if_neg apart.1, get?_eq, if_neg apart.2.1]
      exact ⟨atFirst, atSecond⟩
    · intro k v given scalar
      rw [get?_eq] at given
      split at given
      · next here =>
        cases given
        have object := scalar here.symm
        rw [Value.members?_object] at object
        cases object
      · exact (of_get?_plainFields given).1
    · intro v object given members
      rw [get?_eq, if_pos rfl] at given
      cases given
      rw [Value.members?_object] at members
      cases members
      exact ⟨empty, fun k u member => FieldRule.of_get?_nested member⟩

/-- A JSON rule reads the text of its field. -/
theorem get?_blockParams_json {field : String} (rules : c.rules.rulesFor b.tag = [.json field])
    (key : String) :
    (c.blockParams b).get? key =
      if field = key then
        ((c.writtenFields b).get? field).map fun v => (v.text?.bind Value.ofText?).getD v
      else (c.plainFields b [field]).get? key := by
  rw [blockParams_of_rule rules]
  simp only [FieldRule.toParams]
  cases (c.writtenFields b).get? field with
  | none =>
    by_cases here : field = key
    · rw [if_pos here, ← here]
      exact get?_plainFields_of_mem List.mem_cons_self
    · rw [if_neg here]
      rfl
  | some v =>
    simp only [Dict.get?_insert, Option.map_some]
    rfl

/-- The parameters under a rule for JSON are settled, if the value is nested within bounds and its
numbers are read back. -/
theorem settled_blockParams_json {field : String}
    (rules : c.rules.rulesFor b.tag = [.json field])
    (fieldAdmitted : ∀ s, s ≠ "" → c.admits b.tag field (.text s) = true)
    (indirect : ∀ v, b.fields.get? field = some v → v.text? = none →
      v.tree.depth ≤ Json.maxDepth)
    (numbers : ∀ v, (c.blockParams b).get? field = some v → v.tree.NumbersReadBack) :
    c.Settled b.tag (c.blockParams b) := by
  refine settled_of_json rules fieldAdmitted ?_ ?_
  · intro key v given off
    rw [get?_blockParams_json rules, if_neg (Ne.symm off)] at given
    exact (of_get?_plainFields given).1
  · intro v given
    refine ⟨numbers v given, ?_⟩
    rw [get?_blockParams_json rules, if_pos rfl] at given
    obtain ⟨x, written, rfl⟩ := Option.map_eq_some_iff.1 given
    have held := (admits_of_get?_writtenFields written).2
    cases isText : x.text? with
    | none =>
      rw [Option.bind_none, Option.getD_none]
      exact indirect x held isText
    | some s =>
      rw [Option.bind_some]
      cases read : Value.ofText? s with
      | some u => exact Value.depth_le_of_ofText? read
      | none =>
        -- A text is a leaf.
        rw [Option.getD_none]
        rw [Value.eq_text_of_text? isText]
        exact Nat.zero_le _

/-! ## All tags -/

/-- Of the fields of the built-in rules, none is reserved, and only that of a JSON rule is
omittable. -/
theorem of_mem_blockFields_builtIn {tag name : String} {rule : FieldRule}
    (rules : RuleTable.builtIn.rulesFor tag = [rule]) (mem : name ∈ rule.blockFields) :
    isReservedName name = false ∧ (isOmittable tag name = true → rule = .json name) := by
  have each : ∀ e ∈ RuleTable.builtIn.entries, ∀ name ∈ e.2.blockFields,
      isReservedName name = false ∧ (isOmittable e.1 name = true → e.2 = .json name) := by decide
  have ofTag : rule ∈ RuleTable.builtIn.rulesFor tag := by rw [rules]; exact List.mem_cons_self
  obtain ⟨e, found, rfl⟩ := List.mem_map.1 ofTag
  obtain ⟨inTable, tag_eq⟩ := List.mem_filter.1 found
  rw [← eq_of_beq tag_eq]
  exact each e inTable name mem

/-- The fields of the built-in rules may stand on a block, but for an empty field of a JSON rule. -/
theorem admits_builtIn (builtIn : c.rules = .builtIn) {tag name : String} {v : Value}
    {rule : FieldRule} (rules : c.rules.rulesFor tag = [rule]) (mem : name ∈ rule.blockFields)
    (kept : rule ≠ .json name ∨ isEmptyMark v = false) : c.admits tag name v = true := by
  obtain ⟨plain, ofJson⟩ := of_mem_blockFields_builtIn (by rwa [← builtIn]) mem
  refine admits_of_mem_blockFields ?_ plain ?_
  · rw [blockFields_of_rulesFor rules, List.flatMap_singleton]
    exact mem
  · rcases kept with notJson | full
    · exact .inl (Bool.eq_false_iff.2 fun omittable => notJson (ofJson omittable))
    · exact .inr full

/-- With the built-in rules the parameters of a block are settled. -/
theorem settled_blockParams (builtIn : c.rules = .builtIn) (indirect : b.Indirect)
    (numbers : c.ArgsReadBack b) : c.Settled b.tag (c.blockParams b) := by
  rcases RuleTable.rulesFor_builtIn b.tag with
    ⟨tag, rules⟩ | ⟨tag, rules⟩ | ⟨tag, rules⟩ | ⟨tag, rules⟩ | rules
  all_goals rw [← builtIn] at rules
  · refine settled_blockParams_pair rules (fun v => ⟨?_, ?_⟩) (by decide) (indirect.teleport tag)
    · exact admits_builtIn builtIn rules (by decide) (.inl (by decide))
    · exact admits_builtIn builtIn rules (by decide) (.inl (by decide))
  · refine settled_blockParams_reference rules (fun v => ?_) (by decide) (indirect.summon tag)
    exact admits_builtIn builtIn rules (by decide) (.inl (by decide))
  · refine settled_blockParams_reference rules (fun v => ?_) (by decide) (indirect.createItem tag)
    exact admits_builtIn builtIn rules (by decide) (.inl (by decide))
  · refine settled_blockParams_json rules (fun s nonempty => ?_) (indirect.script tag) (numbers tag)
    exact admits_builtIn builtIn rules (by decide) (.inr (isEmptyMark_text nonempty))
  · refine settled_of_no_rule rules fun key v given => ?_
    rw [blockParams_eq_fold, rules] at given
    exact (of_get?_plainFields given).1

end Compiler

end EffectFlow
