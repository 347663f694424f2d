import EffectFlow.Proofs.Rebuild.Settled

/-!
# When parameters are settled

Without rules, parameters are settled if every one may stand on a block (`settled_of_no_rule`).
With one rule there is a criterion for each kind of rule: what the rule uses up has to read back
from the fields that it restores.
-/

namespace EffectFlow

open Json (Value Number)

namespace Compiler

variable {c : Compiler} {tag : String} {params : Dict Value}

theorem blockFields_of_rulesFor {rules : RuleTable} {list : List FieldRule}
    (h : rules.rulesFor tag = list) :
    rules.blockFields tag = list.flatMap (·.blockFields) := by
  rw [RuleTable.blockFields, h]

theorem get?_filter_unused {used : List String} {key : String} (unused : key ∉ used)
    (params : Dict Value) :
    (params.filter fun key _ => !used.contains key).get? key = params.get? key := by
  have keep : (!used.contains key) = true := by simp [unused]
  rw [Dict.get?_filter]
  cases params.get? key with
  | none => rfl
  | some v => exact Option.filter_some_pos keep

theorem filter_unused_nil (params : Dict Value) :
    (params.filter fun key _ => !([] : List String).contains key) = params :=
  Dict.ext_get? fun _ => get?_filter_unused List.not_mem_nil params

/-- Parameters without rules are settled if all are admitted. -/
theorem settled_of_no_rule (rules : c.rules.rulesFor tag = [])
    (admitted : ∀ key v, params.get? key = some v → c.admits tag key v = true) :
    c.Settled tag params := by
  have fields : c.rules.blockFields tag = [] := blockFields_of_rulesFor rules
  constructor
  · intro key v found _
    rw [fields]
    exact ⟨admitted key v found, List.not_mem_nil⟩
  · intro name v given
    rw [rules] at given
    cases given
  · rw [rules]
    exact filter_unused_nil params

/-- The parameters are settled if the rule alone brings back what it used up. -/
theorem settled_of_rule {rule : FieldRule} (rules : c.rules.rulesFor tag = [rule])
    (kept : ∀ key v, params.get? key = some v → key ∉ (rule.toFields params ∅).used →
      c.admits tag key v = true ∧ key ∉ rule.blockFields)
    (restored : ∀ name v, (rule.toFields params ∅).fields.get? name = some v →
      c.admits tag name v = true ∧ name ∈ rule.blockFields)
    (folded : rule.toParams (rule.toFields params ∅).fields
      (params.filter fun key _ => !(rule.toFields params ∅).used.contains key) = params) :
    c.Settled tag params := by
  have fields : c.rules.blockFields tag = rule.blockFields := by
    rw [blockFields_of_rulesFor rules]
    exact List.append_nil _
  constructor
  · rw [rules, fields]
    exact kept
  · rw [rules, fields]
    exact restored
  · rw [rules]
    exact folded

/-- The parameters are settled if the rule restores nothing of them. -/
theorem settled_of_idle_rule {rule : FieldRule} (rules : c.rules.rulesFor tag = [rule])
    (idle : rule.toFields params ∅ = ⟨∅, []⟩)
    (kept : ∀ key v, params.get? key = some v →
      c.admits tag key v = true ∧ key ∉ rule.blockFields) : c.Settled tag params := by
  refine settled_of_rule rules ?_ ?_ ?_
  · exact fun key v found _ => kept key v found
  · rw [idle]
    intro name v given
    cases given
  · rw [idle, rule.toParams_none]
    exact filter_unused_nil params

/-- What was taken out under a key is put back. -/
theorem insert_filter_unused {key : String} {v : Value} (found : params.get? key = some v) :
    (params.filter fun k _ => !([key] : List String).contains k).insert key v = params := by
  refine Dict.ext_get? fun k => ?_
  rw [Dict.get?_insert]
  by_cases atKey : key = k
  · rw [if_pos atKey, ← atKey, found]
  · rw [if_neg atKey]
    exact get?_filter_unused (by simp [Ne.symm atKey]) params

section reference

variable {field zoneKey idKey : String}

/-- A reference rule restores its field if both parts are there. -/
theorem toFields_reference (field : String) (params : Dict Value) :
    (∃ zone id, params.get? zoneKey = some zone ∧ params.get? idKey = some id ∧
        (FieldRule.reference field zoneKey idKey).toFields params ∅ =
          ⟨Dict.insert ∅ field (.text (plainText zone ++ ":" ++ plainText id)),
            [zoneKey, idKey]⟩) ∨
      (params.get? zoneKey = none ∨ params.get? idKey = none) ∧
        (FieldRule.reference field zoneKey idKey).toFields params ∅ = ⟨∅, []⟩ := by
  cases zoneFound : params.get? zoneKey with
  | none => exact .inr ⟨.inl rfl, by simp only [FieldRule.toFields, zoneFound]⟩
  | some zone =>
    cases idFound : params.get? idKey with
    | none => exact .inr ⟨.inr rfl, by simp only [FieldRule.toFields, zoneFound, idFound]⟩
    | some id =>
      exact .inl ⟨zone, id, rfl, rfl, by simp only [FieldRule.toFields, zoneFound, idFound]⟩

/-- With a reference rule, both parts have to read back if they are there together. -/
theorem settled_of_reference
    (rules : c.rules.rulesFor tag = [.reference field zoneKey idKey])
    (fieldAdmitted : ∀ v, c.admits tag field v = true)
    (notField : params.get? field = none)
    (admitted : ∀ key v, params.get? key = some v →
      (key = zoneKey ∨ key = idKey → params.get? zoneKey = none ∨ params.get? idKey = none) →
        c.admits tag key v = true)
    (parts : ∀ zone id, params.get? zoneKey = some zone → params.get? idKey = some id →
      ReadsAsPart zone ∧ ReadsAsPart id ∧ ':' ∉ (plainText zone).toList) :
    c.Settled tag params := by
  have offField : ∀ key v, params.get? key = some v → key ∉ [field] := by
    intro key v found mem
    rw [List.mem_singleton.1 mem, notField] at found
    cases found
  rcases toFields_reference field params with
    ⟨zone, id, zoneFound, idFound, eq⟩ | ⟨missing, eq⟩
  · obtain ⟨zonePart, idPart, noColon⟩ := parts zone id zoneFound idFound
    refine settled_of_rule rules ?_ ?_ ?_
    · rw [eq]
      intro key v found unused
      simp only [List.mem_cons, List.not_mem_nil, or_false, not_or] at unused
      exact ⟨admitted key v found fun used => absurd used (by simp [unused]), offField key v found⟩
    · rw [eq]
      intro name v given
      obtain ⟨rfl, -⟩ := of_get?_insert_none given
      exact ⟨fieldAdmitted v, List.mem_cons_self⟩
    · rw [eq]
      simp only [FieldRule.toParams, get?_insert_none_self, Option.bind_some,
        FieldRule.referenceParts?_text zonePart idPart noColon, zonePart.1, idPart.1]
      refine Dict.ext_get? fun key => ?_
      rw [Dict.get?_insert, Dict.get?_insert]
      by_cases atId : idKey = key
      · rw [if_pos atId, ← atId, idFound]
      · by_cases atZone : zoneKey = key
        · rw [if_neg atId, if_pos atZone, ← atZone, zoneFound]
        · rw [if_neg atId, if_neg atZone]
          exact get?_filter_unused (by simp [Ne.symm atId, Ne.symm atZone]) params
  · refine settled_of_idle_rule rules eq fun key v found => ?_
    exact ⟨admitted key v found fun _ => missing, offField key v found⟩

end reference

section pair

variable {key : String} {first second : PairMember}

/-- With a pair rule, an object has to be one that the rule could have made. -/
theorem settled_of_pair (rules : c.rules.rulesFor tag = [.pair key first second])
    (fieldsAdmitted : ∀ v, c.admits tag first.field v = true ∧ c.admits tag second.field v = true)
    (fields_ne : first.field ≠ second.field)
    (notFields : params.get? first.field = none ∧ params.get? second.field = none)
    (admitted : ∀ k v, params.get? k = some v → (k = key → v.members? = none) →
      c.admits tag k v = true)
    (made : ∀ v object, params.get? key = some v → v.members? = some object →
      object.isEmpty = false ∧ ∀ k u, object.get? k = some u →
        (k = first.key ∨ k = second.key) ∧ numeric u = u) :
    c.Settled tag params := by
  have offFields : ∀ k v, params.get? k = some v → k ∉ [first.field, second.field] := by
    intro k v found mem
    simp only [List.mem_cons, List.not_mem_nil, or_false] at mem
    rcases mem with rfl | rfl
    · rw [notFields.1] at found
      cases found
    · rw [notFields.2] at found
      cases found
  cases isObject : (params.get? key).bind Value.members? with
  | none =>
    have eq : (FieldRule.pair key first second).toFields params ∅ = ⟨∅, []⟩ := by
      simp only [FieldRule.toFields, isObject]
    refine settled_of_idle_rule rules eq fun k v found => ?_
    refine ⟨admitted k v found fun atKey => ?_, offFields k v found⟩
    rw [← atKey, found] at isObject
    exact isObject
  | some object =>
    obtain ⟨v, found, members⟩ := Option.bind_eq_some_iff.1 isObject
    obtain ⟨nonempty, each⟩ := made v object found members
    have whole : params.get? key = some (.object object) := by
      rw [found, Value.eq_object_of_members? members]
    have eq : (FieldRule.pair key first second).toFields params ∅ =
        ⟨FieldRule.spread object ∅ [first, second], [key]⟩ := by
      simp only [FieldRule.toFields, isObject]
    have back : FieldRule.nested (FieldRule.spread object ∅ [first, second]) [first, second] =
        object :=
      FieldRule.nested_spread fields_ne (fun k u h => (each k u h).1) fun k u h => (each k u h).2
    refine settled_of_rule rules ?_ ?_ ?_
    · rw [eq]
      intro k u foundAt unused
      refine ⟨admitted k u foundAt fun atKey => ?_, offFields k u foundAt⟩
      exact absurd (List.mem_singleton.2 atKey) unused
    · rw [eq]
      intro name u given
      simp only [FieldRule.get?_spread, get?_none, Option.or_none] at given
      by_cases atSecond : second.field = name
      · rw [← atSecond]
        exact ⟨(fieldsAdmitted u).2, List.mem_cons_of_mem _ List.mem_cons_self⟩
      · by_cases atFirst : first.field = name
        · rw [← atFirst]
          exact ⟨(fieldsAdmitted u).1, List.mem_cons_self⟩
        · rw [if_neg atSecond, if_neg atFirst] at given
          cases given
    · simp only [eq, FieldRule.toParams, back, nonempty]
      exact insert_filter_unused whole

end pair

section json

variable {field : String}

/-- With a JSON rule, the value under its name has to read back from its text. -/
theorem settled_of_json (rules : c.rules.rulesFor tag = [.json field])
    (fieldAdmitted : ∀ s, s ≠ "" → c.admits tag field (.text s) = true)
    (admitted : ∀ key v, params.get? key = some v → key ≠ field → c.admits tag key v = true)
    (back : ∀ v, params.get? field = some v →
      v.tree.NumbersReadBack ∧ v.tree.depth ≤ Json.maxDepth) :
    c.Settled tag params := by
  cases found : params.get? field with
  | none =>
    have eq : (FieldRule.json field).toFields params ∅ = ⟨∅, []⟩ := by
      simp only [FieldRule.toFields, found]
    have off : ∀ key v, params.get? key = some v → key ≠ field := by
      rintro key v foundAt rfl
      rw [found] at foundAt
      cases foundAt
    refine settled_of_idle_rule rules eq fun key v foundAt => ?_
    exact ⟨admitted key v foundAt (off key v foundAt),
      fun mem => off key v foundAt (List.mem_singleton.1 mem)⟩
  | some v =>
    obtain ⟨numbers, shallow⟩ := back v found
    have eq : (FieldRule.json field).toFields params ∅ =
        ⟨Dict.insert ∅ field (.text (jsonFieldText v)), [field]⟩ := by
      simp only [FieldRule.toFields, found]
    refine settled_of_rule rules ?_ ?_ ?_
    · rw [eq]
      intro key u foundAt unused
      have off : key ≠ field := fun atField => unused (List.mem_singleton.2 atField)
      exact ⟨admitted key u foundAt off, unused⟩
    · rw [eq]
      intro name u given
      obtain ⟨rfl, rfl⟩ := of_get?_insert_none given
      exact ⟨fieldAdmitted _ (jsonFieldText_ne_empty v), List.mem_cons_self⟩
    · rw [eq]
      have parsed : ((Value.text (jsonFieldText v)).text?.bind Value.ofText?).getD
          (.text (jsonFieldText v)) = v := ofText?_jsonFieldText numbers shallow
      simp only [FieldRule.toParams, get?_insert_none_self, parsed]
      exact insert_filter_unused found

end json

end Compiler

end EffectFlow
