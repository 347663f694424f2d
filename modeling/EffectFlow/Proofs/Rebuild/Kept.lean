import EffectFlow.Proofs.Fields.Stability
import EffectFlow.Proofs.Rebuild.Composites

/-!
# Composite parameters that are kept

A node may hold parameters that a rule could have made, and beside them others that stand under the
names of the rule's fields.  All these names are listed for the tag.  So when the node is loaded,
first the rule restores its fields, and then the other parameters are copied onto the block and
*shadow* them.

With the built-in rules, whole parameters (`FieldRule.Whole`) are kept by loading and compiling
exactly if nothing shadows them by other values (`FieldRule.Unshadowed`,
`Compiler.PlannedFrom.kept_iff_unshadowed`).  The arguments of a script have no other names.  They
are never lost, and never changed if they read back (`Compiler.PlannedFrom.kept_args`).
-/

namespace EffectFlow

open Json (Value Number)

namespace FieldRule

/-- The parameters of the rule are there in the form that it makes: both parts of a reference are
signed words, the object has both members of the pair and no others, and these are numbers, and the
JSON value reads back from its text. -/
def Whole (params : Dict Value) : FieldRule → Prop
  | reference _ zoneKey idKey =>
    (∃ n, params.get? zoneKey = some (Value.int64 n)) ∧
      ∃ n, params.get? idKey = some (Value.int64 n)
  | pair key first second =>
    ∃ object, params.get? key = some (.object object) ∧
      (∃ x, object.get? first.key = some (.number x)) ∧
      (∃ y, object.get? second.key = some (.number y)) ∧
      ∀ name v, object.get? name = some v → name = first.key ∨ name = second.key
  | json field =>
    ∃ v, params.get? field = some v ∧ v.tree.NumbersReadBack ∧ v.tree.depth ≤ Json.maxDepth

/-- A parameter under the name of a field of the rule stands for what the parameters of the rule
hold already: for the same reference, or for the same member of the object. -/
def Unshadowed (params : Dict Value) : FieldRule → Prop
  | reference field zoneKey idKey =>
    ∀ v, params.get? field = some v → ∃ zone id, referenceParts? v = some (zone, id) ∧
      params.get? zoneKey = some (referencePart zone) ∧
      params.get? idKey = some (referencePart id)
  | pair key first second =>
    ∀ object, params.get? key = some (.object object) → ∀ m ∈ [first, second], ∀ v,
      params.get? m.field = some v → object.get? m.key = some (numeric v)
  | json _ => True

/-- An object of no other members is made of the fields of a pair exactly if each field has its
member. -/
theorem nested_eq_iff {fields object : Dict Value} {first second : PairMember}
    (keys_ne : first.key ≠ second.key)
    (known : ∀ name v, object.get? name = some v → name = first.key ∨ name = second.key) :
    nested fields [first, second] = object ↔
      (fields.get? first.field).map numeric = object.get? first.key ∧
        (fields.get? second.field).map numeric = object.get? second.key := by
  have atFirst : (nested fields [first, second]).get? first.key =
      (fields.get? first.field).map numeric := by
    rw [get?_nested, if_neg (Ne.symm keys_ne), if_pos rfl, Option.none_or]
  have atSecond : (nested fields [first, second]).get? second.key =
      (fields.get? second.field).map numeric := by
    rw [get?_nested, if_pos rfl, if_neg keys_ne, Option.or_none]
  constructor
  · rintro rfl
    exact ⟨atFirst.symm, atSecond.symm⟩
  · rintro ⟨first_eq, second_eq⟩
    refine Dict.ext_get? fun name => ?_
    by_cases here : name = first.key ∨ name = second.key
    · rcases here with rfl | rfl
      · rw [atFirst, first_eq]
      · rw [atSecond, second_eq]
    · rw [Option.eq_none_iff_forall_ne_some.2 fun v found => here (known name v found)]
      exact Option.eq_none_iff_forall_ne_some.2 fun v found => here (of_get?_nested found).1

end FieldRule

/-- A number is what a field is written as, unless another value stands there that does not stand
for it. -/
theorem map_numeric_or_eq_iff {stray : Option Value} {x : Number} :
    (stray.or (some (.number x))).map numeric = some (.number x) ↔
      ∀ v, stray = some v → some (Value.number x) = some (numeric v) := by
  cases stray with
  | none => simp [numeric_number]
  | some v => simp [eq_comm]

namespace Compiler

namespace PlannedFrom

variable {c : Compiler} {n : Node} {b : Block} {rule : FieldRule}

/-! ## One rule -/

/-- The parts of a reference are kept exactly if those that are read from the field are they. -/
theorem kept_iff_of_referenceParts? {field zoneKey idKey : String} {params : Dict Value}
    (rules : c.rules.rulesFor b.tag = [.reference field zoneKey idKey]) (keys_ne : zoneKey ≠ idKey)
    {zone id : List Char} (found : ((c.writtenFields b).get? field).bind
      FieldRule.referenceParts? = some (zone, id)) :
    (∀ key ∈ [zoneKey, idKey], (c.blockParams b).get? key = params.get? key) ↔
      params.get? zoneKey = some (referencePart zone) ∧
        params.get? idKey = some (referencePart id) := by
  have get?_eq := get?_blockParams_reference rules found
  rw [List.forall_mem_cons, List.forall_mem_singleton, get?_eq zoneKey, get?_eq idKey,
    if_neg (Ne.symm keys_ne), if_pos rfl, if_pos rfl]
  exact and_congr eq_comm eq_comm

/-- The parameters of a whole reference are kept exactly if no stray parameter shadows them. -/
theorem kept_reference_iff {field zoneKey idKey : String} (planned : c.PlannedFrom n b)
    (rules : c.rules.rulesFor b.tag = [.reference field zoneKey idKey])
    (fieldAdmitted : ∀ v, c.admits b.tag field v = true)
    (plain : ∀ name ∈ [zoneKey, idKey], isReservedName name = false)
    (apart : field ∉ [zoneKey, idKey]) (keys_ne : zoneKey ≠ idKey)
    (whole : (FieldRule.reference field zoneKey idKey).Whole n.params) :
    (∀ key ∈ [zoneKey, idKey], (c.blockParams b).get? key = n.params.get? key) ↔
      (FieldRule.reference field zoneKey idKey).Unshadowed n.params := by
  obtain ⟨⟨z, atZone⟩, i, atId⟩ := whole
  have written := planned.get?_written_reference rules fieldAdmitted apart atZone atId
  cases stray : n.params.get? field with
  | none =>
    have zonePart := readsAsPart_int64 z
    have idPart := readsAsPart_int64 i
    have found : ((c.writtenFields b).get? field).bind FieldRule.referenceParts? =
        some ((plainText (Value.int64 z)).toList, (plainText (Value.int64 i)).toList) := by
      rw [written, stray, Option.none_or, Option.bind_some]
      exact FieldRule.referenceParts?_text zonePart idPart (colon_notMem_plainText_int64 z)
    refine iff_of_true ((kept_iff_of_referenceParts? rules keys_ne found).2 ?_) fun v given => ?_
    · rw [zonePart.1, idPart.1]
      exact ⟨atZone, atId⟩
    · rw [stray] at given
      cases given
  | some v =>
    rw [stray, Option.some_or] at written
    cases read : FieldRule.referenceParts? v with
    | none =>
      have used : zoneKey ∈
          ((FieldRule.reference field zoneKey idKey).toFields n.params ∅).used := by
        simp only [FieldRule.toFields, atZone, atId, List.mem_cons_self]
      have lost : (c.blockParams b).get? zoneKey = none :=
        planned.get?_lost_reference rules (plain zoneKey List.mem_cons_self)
          (List.ne_of_not_mem_cons apart) used (by rw [written, Option.bind_some, read])
      refine iff_of_false (fun kept => ?_) fun unshadowed => ?_
      · have there := kept zoneKey List.mem_cons_self
        rw [lost, atZone] at there
        cases there
      · obtain ⟨zone, id, parts, -⟩ := unshadowed v stray
        rw [read] at parts
        cases parts
    | some parts =>
      obtain ⟨zone, id⟩ := parts
      have found : ((c.writtenFields b).get? field).bind FieldRule.referenceParts? =
          some (zone, id) := by
        rw [written, Option.bind_some, read]
      rw [kept_iff_of_referenceParts? rules keys_ne found]
      constructor
      · intro kept other given
        cases stray.symm.trans given
        exact ⟨zone, id, read, kept⟩
      · intro unshadowed
        obtain ⟨zone', id', parts, same⟩ := unshadowed v stray
        cases read.symm.trans parts
        exact same

/-- So is the object of a whole pair. -/
theorem kept_pair_iff {key : String} {first second : PairMember} (planned : c.PlannedFrom n b)
    (rules : c.rules.rulesFor b.tag = [.pair key first second])
    (fieldsAdmitted : ∀ v,
      c.admits b.tag first.field v = true ∧ c.admits b.tag second.field v = true)
    (apart : first.field ≠ key ∧ second.field ≠ key ∧ first.field ≠ second.field)
    (keys_ne : first.key ≠ second.key)
    (whole : (FieldRule.pair key first second).Whole n.params) :
    (∀ name ∈ [key], (c.blockParams b).get? name = n.params.get? name) ↔
      (FieldRule.pair key first second).Unshadowed n.params := by
  obtain ⟨object, found, ⟨x, atFirst⟩, ⟨y, atSecond⟩, known⟩ := whole
  have isObject : (n.params.get? key).bind Value.members? = some object := by
    rw [found, Option.bind_some, Value.members?_object]
  obtain ⟨firstWritten, secondWritten⟩ :=
    planned.get?_written_pair rules fieldsAdmitted apart isObject
  rw [atFirst] at firstWritten
  rw [atSecond] at secondWritten
  have unique {other : Dict Value} (given : n.params.get? key = some (.object other)) :
      other = object := by
    rw [given, Option.bind_some, Value.members?_object] at isObject
    exact Option.some.inj isObject
  have solid : (FieldRule.nested (c.writtenFields b) [first, second]).isEmpty = false := by
    rw [FieldRule.isEmpty_nested, firstWritten]
    simp
  calc (∀ name ∈ [key], (c.blockParams b).get? name = n.params.get? name)
      ↔ FieldRule.nested (c.writtenFields b) [first, second] = object := by
        rw [List.forall_mem_singleton, get?_blockParams_pair rules solid, if_pos rfl]
        exact ⟨fun same => unique same.symm, fun same => by rw [same, found]⟩
    _ ↔ (∀ v, n.params.get? first.field = some v → object.get? first.key = some (numeric v)) ∧
          ∀ v, n.params.get? second.field = some v →
            object.get? second.key = some (numeric v) := by
        rw [FieldRule.nested_eq_iff keys_ne known, firstWritten, secondWritten, atFirst, atSecond,
          map_numeric_or_eq_iff, map_numeric_or_eq_iff]
    _ ↔ (FieldRule.pair key first second).Unshadowed n.params := by
        constructor
        · rintro ⟨ofFirst, ofSecond⟩ other given m mem
          rw [unique given]
          rcases List.mem_pair.1 mem with rfl | rfl
          · exact ofFirst
          · exact ofSecond
        · intro unshadowed
          exact ⟨unshadowed object found first (by simp), unshadowed object found second (by simp)⟩

/-- The value of a JSON field is kept if it is not nested too deep and its numbers are read back. -/
theorem kept_json {field : String} (planned : c.PlannedFrom n b)
    (rules : c.rules.rulesFor b.tag = [.json field])
    (fieldAdmitted : ∀ s, s ≠ "" → c.admits b.tag field (.text s) = true)
    (plain : isReservedName field = false) {v : Value} (found : n.params.get? field = some v) :
    ∃ u, (c.blockParams b).get? field = some u ∧
      (v.tree.NumbersReadBack → v.tree.depth ≤ Json.maxDepth → u = v) :=
  ⟨_, planned.get?_json rules fieldAdmitted plain found, ofText?_jsonFieldText⟩

/-! ## The built-in rules -/

/-- With the built-in rules a script is compiled to arguments if its node has some. -/
theorem kept_args (builtIn : c.rules = .builtIn) (planned : c.PlannedFrom n b)
    (script : c.tagOf? n = some "effect_script") {v : Value}
    (found : n.params.get? "args" = some v) :
    ∃ u, (c.blockParams b).get? "args" = some u ∧
      (v.tree.NumbersReadBack → v.tree.depth ≤ Json.maxDepth → u = v) := by
  have tag := Option.some.inj (planned.tag.symm.trans script)
  have rules : c.rules.rulesFor b.tag = [.json "args"] := by
    rw [builtIn, tag]
    rfl
  exact planned.kept_json rules
    (fun s nonempty => admits_builtIn builtIn rules (by decide) (.inr (isEmptyMark_text nonempty)))
    (by decide) found

/-- With the built-in rules a block is compiled to whole parameters as they were, if nothing shadows
them by other values, and else not. -/
theorem kept_iff_unshadowed (builtIn : c.rules = .builtIn) (planned : c.PlannedFrom n b)
    (mem : rule ∈ c.rules.rulesFor b.tag) (whole : rule.Whole n.params) :
    (∀ key ∈ rule.paramKeys, (c.blockParams b).get? key = n.params.get? key) ↔
      rule.Unshadowed n.params := by
  rcases RuleTable.rulesFor_builtIn b.tag with
    ⟨-, rules⟩ | ⟨-, rules⟩ | ⟨-, rules⟩ | ⟨tag, rules⟩ | rules
  all_goals
    rw [← builtIn] at rules
    rw [rules] at mem
  case inr.inr.inr.inr => cases mem
  all_goals obtain rfl := List.mem_singleton.1 mem
  · refine planned.kept_pair_iff rules (fun v => ⟨?_, ?_⟩) (by decide) (by decide) whole
    · exact admits_builtIn builtIn rules (by decide) (.inl (by decide))
    · exact admits_builtIn builtIn rules (by decide) (.inl (by decide))
  · refine planned.kept_reference_iff rules (fun v => ?_) (by decide) (by decide) (by decide) whole
    exact admits_builtIn builtIn rules (by decide) (.inl (by decide))
  · refine planned.kept_reference_iff rules (fun v => ?_) (by decide) (by decide) (by decide) whole
    exact admits_builtIn builtIn rules (by decide) (.inl (by decide))
  · obtain ⟨v, found, numbers, shallow⟩ := whole
    have script : c.tagOf? n = some "effect_script" := by rw [planned.tag, tag]
    obtain ⟨u, there, same⟩ := planned.kept_args builtIn script found
    refine iff_of_true (List.forall_mem_singleton.2 ?_) trivial
    rw [there, found, same numbers shallow]

end PlannedFrom

/-! ## Documents -/

/-- Loading a document and compiling it at once rewrites its nodes one for one, and the known
effects among them, at any depth, are those of the document.  With the built-in rules, the whole
parameters of a rule are there again as they were exactly if nothing in the node shadows them by
other values. -/
theorem kept_iff_unshadowed_all (c : Compiler) (d : Document) (builtIn : c.rules = .builtIn) :
    List.Forall₂ (fun n m => c.Rewritten n m ∧ ∀ tag, c.tagOf? n = some tag →
        ∀ rule ∈ c.rules.rulesFor tag, rule.Whole n.params →
          ((∀ key ∈ rule.paramKeys, m.params.get? key = n.params.get? key) ↔
            rule.Unshadowed n.params))
      (Node.preorderAll (c.arranged d.lift)) (Node.preorderAll (c.compile (c.rebuild d)).nodes) ∧
    ((Node.preorderAll (c.arranged d.lift)).filter (!·.isGate)).Perm
      ((Node.preorderAll d.lift).filter c.isKnownEffect) := by
  refine ⟨(c.forall₂_rewritten d).imp fun n m rewritten => ⟨rewritten, ?_⟩, perm_arranged d.lift⟩
  intro tag tag_eq rule mem
  obtain ⟨b, planned, params⟩ := rewritten.exists_planned
  cases planned.tag.symm.trans tag_eq
  rw [params]
  exact planned.kept_iff_unshadowed builtIn mem

/-- The parameters of a summons, both parts of a reference. -/
def summonsParams : Dict Value :=
  Dict.ofList [("creatureZoneId", .int64 3), ("creatureId", .int64 12)]

/-- A summons with these parameters, and a value under the name of the field. -/
def shadowedSummons (stray : Value) : Node :=
  .effect 7 (summonsParams.insert "creatureRef" stray) 0 none 100

theorem get?_shadowedSummons (stray : Value) {name : String} (other : name ≠ "creatureRef") :
    (shadowedSummons stray).params.get? name = summonsParams.get? name := by
  rw [shadowedSummons, Node.params, Dict.get?_insert, if_neg (Ne.symm other)]

theorem sound_shadowedSummons (stray : Value) : (shadowedSummons stray).Sound := by
  refine ⟨by decide, by decide, fun branch => ?_⟩
  have absent : summonsParams.get? branch.key = none := by cases branch <;> rfl
  exact (get?_shadowedSummons stray (by cases branch <;> decide)).trans absent

theorem whole_shadowedSummons (stray : Value) :
    (FieldRule.reference "creatureRef" "creatureZoneId" "creatureId").Whole
      (shadowedSummons stray).params :=
  ⟨⟨3, get?_shadowedSummons stray (by decide)⟩, 12, get?_shadowedSummons stray (by decide)⟩

/-- A value that stands for the same reference does no harm. -/
theorem kept_iff_unshadowed_all_summons :
    ∃ m, Node.preorderAll (twoEffects.compile (twoEffects.rebuild
        (.ofNodes [shadowedSummons (.text " 3:012")]))).nodes = [m] ∧
      m.params.get? "creatureZoneId" = some (.int64 3) ∧
      m.params.get? "creatureId" = some (.int64 12) := by
  obtain ⟨rewritten, -⟩ := kept_iff_unshadowed_all twoEffects
    (.ofNodes [shadowedSummons (.text " 3:012")]) rfl
  obtain ⟨m, eq, -, kept⟩ :=
    exists_of_forall₂_arranged (sound_shadowedSummons _) (by decide) rewritten
  have unshadowed : (FieldRule.reference "creatureRef" "creatureZoneId" "creatureId").Unshadowed
      (shadowedSummons (.text " 3:012")).params := by
    intro v given
    cases (show some (Value.text " 3:012") = some v from given)
    exact ⟨" 3".toList, "012".toList, by decide, by decide, by decide⟩
  have known : twoEffects.registry.tag? 7 = some "effect_summon" := by decide
  have there := (kept "effect_summon" known _ List.mem_cons_self
    (whole_shadowedSummons _)).2 unshadowed
  exact ⟨m, eq, there "creatureZoneId" (by decide), there "creatureId" (by decide)⟩

/-- A value that stands for another reference takes the place of the parts. -/
theorem whole_and_replaced :
    twoEffects.rules = .builtIn ∧ twoEffects.registry.isReady = true ∧
      (Document.ofNodes [shadowedSummons (.text "9:99")]).lift =
        [shadowedSummons (.text "9:99")] ∧
      twoEffects.isKnownEffect (shadowedSummons (.text "9:99")) = true ∧
      (FieldRule.reference "creatureRef" "creatureZoneId" "creatureId").Whole
        (shadowedSummons (.text "9:99")).params ∧
      (Node.preorderAll (twoEffects.compile (twoEffects.rebuild
          (.ofNodes [shadowedSummons (.text "9:99")]))).nodes).map
        (fun m => (m.params.get? "creatureZoneId", m.params.get? "creatureId")) =
        [(some (.int64 9), some (.int64 99))] := by
  have lifted : (Document.ofNodes [shadowedSummons (.text "9:99")]).lift =
      [shadowedSummons (.text "9:99")] :=
    Document.lift_ofNodes ⟨sound_shadowedSummons _, trivial⟩
  refine ⟨rfl, by decide, lifted, by decide, whole_shadowedSummons _, ?_⟩
  rw [compile, outline_rebuild]
  decide +kernel

/-- JSON fields lose nothing.  A value is restored to a text that is never empty, and it is made of
this text again if it reads back.  A text that is no JSON is restored from what is made of it.  So
with the built-in rules a script that has arguments, at any depth of a document, has arguments
after loading and compiling, and the same ones if they read back. -/
theorem json_lossless :
    (∀ (field : String) (v : Value), v.tree.NumbersReadBack → v.tree.depth ≤ Json.maxDepth →
      (FieldRule.json field).made ((FieldRule.json field).restored (Dict.insert ∅ field v)) =
        Dict.insert ∅ field v) ∧
    (∀ field s : String, s ≠ "" → Value.ofText? s = none →
      (FieldRule.json field).restored
          ((FieldRule.json field).made (Dict.insert ∅ field (.text s))) =
        Dict.insert ∅ field (.text s)) ∧
    (∀ (field : String) (params : Dict Value) (v : Value), params.get? field = some v →
      ∃ s, ((FieldRule.json field).restored params).get? field = some (.text s) ∧ s ≠ "") ∧
    ∀ (c : Compiler) (d : Document), c.rules = .builtIn →
      List.Forall₂ (fun n m => c.Rewritten n m ∧ (c.tagOf? n = some "effect_script" →
          ∀ v, n.params.get? "args" = some v → ∃ u, m.params.get? "args" = some u ∧
            (v.tree.NumbersReadBack → v.tree.depth ≤ Json.maxDepth → u = v)))
        (Node.preorderAll (c.arranged d.lift)) (Node.preorderAll (c.compile (c.rebuild d)).nodes) ∧
      ((Node.preorderAll (c.arranged d.lift)).filter (!·.isGate)).Perm
        ((Node.preorderAll d.lift).filter c.isKnownEffect) := by
  refine ⟨fun field v => FieldRule.made_restored_json, fun field s => FieldRule.restored_made_json,
    fun field params v found => ⟨_, FieldRule.get?_restored_json found⟩, fun c d builtIn => ?_⟩
  refine ⟨(c.forall₂_rewritten d).imp fun n m rewritten => ⟨rewritten, fun script v found => ?_⟩,
    perm_arranged d.lift⟩
  obtain ⟨b, planned, params⟩ := rewritten.exists_planned
  rw [params]
  exact planned.kept_args builtIn script found

/-- A script with some arguments. -/
def scriptNode (args : Value) : Node := .effect 9 (Dict.ofList [("args", args)]) 0 none 100

/-- An empty text is written in quotes, and so it is not left out; a text that is no JSON is written
as it is. -/
theorem json_lossless_empty_text :
    (FieldRule.json "args").made
        ((FieldRule.json "args").restored (Dict.insert ∅ "args" (.text ""))) =
      Dict.insert ∅ "args" (.text "") ∧
    (FieldRule.json "args").restored
        ((FieldRule.json "args").made (Dict.insert ∅ "args" (.text "[1"))) =
      Dict.insert ∅ "args" (.text "[1") ∧
    (∃ s, ((FieldRule.json "args").restored (Dict.insert ∅ "args" (.text ""))).get? "args" =
      some (.text s) ∧ s ≠ "") ∧
    ∃ m, Node.preorderAll (twoEffects.compile (twoEffects.rebuild
        (.ofNodes [scriptNode (.text "")]))).nodes = [m] ∧
      m.params.get? "args" = some (.text "") := by
  obtain ⟨madeBack, restoredBack, nonempty, documents⟩ := json_lossless
  refine ⟨madeBack "args" (.text "") trivial (by decide),
    restoredBack "args" "[1" (by decide) (by decide +kernel),
    nonempty "args" _ (.text "") rfl, ?_⟩
  obtain ⟨rewritten, -⟩ := documents twoEffects (.ofNodes [scriptNode (.text "")]) rfl
  have known : twoEffects.registry.tag? 9 = some "effect_script" := by decide
  have sound : (scriptNode (.text "")).Sound :=
    ⟨by decide, by decide, fun branch => by cases branch <;> rfl⟩
  obtain ⟨m, eq, -, kept⟩ := exists_of_forall₂_arranged sound (by decide) rewritten
  obtain ⟨u, there, same⟩ := kept known (.text "") rfl
  rw [same trivial (by decide)] at there
  exact ⟨m, eq, there⟩

end Compiler

end EffectFlow
