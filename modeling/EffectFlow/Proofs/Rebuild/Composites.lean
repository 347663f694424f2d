import EffectFlow.Proofs.Rebuild.Arranged
import EffectFlow.Proofs.Rebuild.Documents

/-!
# Composite parameters of rebuilt documents

A rule takes parameters out of a document when it loads it, and puts them back when the document is
compiled again.  It takes them on one condition and puts them back on another.  What it takes is
*recoverable* if the second condition holds too (`FieldRule.Recoverable`): a reference without a
blank part, an object with a member of the pair, and any JSON value.

With the built-in rules, a parameter that a rule took out is there again after loading and compiling
exactly if it was recoverable (`Compiler.PlannedFrom.contains_iff_recoverable`), and this is so for
every node of a document, at any depth (`Compiler.contains_iff_recoverable_all`).  Else it is lost.
-/

namespace EffectFlow

open Json (Value)

/-- What the rule takes out of the parameters it can put back: the text before the first colon of
the reference is not blank, and neither is the rest; the object has a member of the pair. -/
def FieldRule.Recoverable (params : Dict Value) : FieldRule → Prop
  | reference _ zoneKey idKey =>
    ∀ zone id, params.get? zoneKey = some zone → params.get? idKey = some id →
      Text.trim ((plainText zone).toList.takeWhile (· != ':')) ≠ [] ∧
        (':' ∈ (plainText zone).toList ∨ Text.trim (plainText id).toList ≠ [])
  | pair key first second =>
    ∀ v object, params.get? key = some v → v.members? = some object →
      (object.get? first.key).isSome ∨ (object.get? second.key).isSome
  | json _ => True

namespace FieldRule

/-- A reference is recoverable exactly if the text it is written as is read as a reference. -/
theorem recoverable_reference_iff {field zoneKey idKey : String} {params : Dict Value}
    {zone id : Value} (zoneFound : params.get? zoneKey = some zone)
    (idFound : params.get? idKey = some id) :
    (reference field zoneKey idKey).Recoverable params ↔
      ∃ parts, referenceParts? (.text (plainText zone ++ ":" ++ plainText id)) = some parts := by
  rw [exists_referenceParts?_iff]
  refine ⟨fun h => h zone id zoneFound idFound, fun h zone' id' zoneFound' idFound' => ?_⟩
  cases zoneFound.symm.trans zoneFound'
  cases idFound.symm.trans idFound'
  exact h

/-- A pair is recoverable exactly if its object has a member of the pair. -/
theorem recoverable_pair_iff {key : String} {first second : PairMember} {params object : Dict Value}
    {v : Value} (found : params.get? key = some v) (members : v.members? = some object) :
    (pair key first second).Recoverable params ↔
      (object.get? first.key).isSome ∨ (object.get? second.key).isSome := by
  refine ⟨fun h => h v object found members, fun h v' object' found' members' => ?_⟩
  cases found.symm.trans found'
  cases members.symm.trans members'
  exact h

end FieldRule

namespace Compiler

/-- The parameters that the rules take out of the node. -/
def usedKeys (c : Compiler) (n : Node) : List String :=
  match c.tagOf? n with
  | some tag => (restore (c.rules.rulesFor tag) n.params).used
  | none => []

/-- What the rules take out of the node they can put back. -/
def Recoverable (c : Compiler) (n : Node) : Prop :=
  ∀ tag, c.tagOf? n = some tag → ∀ rule ∈ c.rules.rulesFor tag, rule.Recoverable n.params

/-- The parameters of the node have no name of a field that the rules have on blocks only. -/
def Bare (c : Compiler) (n : Node) : Prop :=
  ∀ tag, c.tagOf? n = some tag → ∀ name ∈ c.rules.interfaceFields tag, n.params.get? name = none

namespace PlannedFrom

variable {c : Compiler} {n : Node} {b : Block} {rule : FieldRule} {key : String}

/-! ## One rule -/

/-- A field that the rule does not take out is written as the parameter of its name, or else as the
rule restores it. -/
theorem get?_written (planned : c.PlannedFrom n b) (rules : c.rules.rulesFor b.tag = [rule])
    {name : String} (unused : name ∉ (rule.toFields n.params ∅).used)
    (admitted : ∀ v, c.admits b.tag name v = true) :
    (c.writtenFields b).get? name =
      (n.params.get? name).or ((rule.toFields n.params ∅).fields.get? name) := by
  have admittedNull := admitted .null
  simp only [admits, Bool.and_eq_true, Bool.not_eq_true'] at admittedNull
  obtain ⟨⟨listed, plain⟩, -⟩ := admittedNull
  have kept (v : Value) : (some v).filter (fun _ =>
      !(rule.toFields n.params ∅).used.contains name && !isReservedName name &&
        (c.fieldsOf b.tag).contains name) = some v := by
    refine Option.filter_some_pos ?_
    rw [listed, plain]
    simp [unused]
  rw [get?_writtenFields, planned.fields name plain, get?_plannedFields_of_rule rules]
  cases n.params.get? name with
  | some v =>
    rw [kept, Option.some_or]
    exact Option.filter_some_pos (admitted v)
  | none =>
    rw [Option.filter_none, Option.none_or]
    cases (rule.toFields n.params ∅).fields.get? name with
    | none => rfl
    | some v => exact Option.filter_some_pos (admitted v)

/-- A parameter that the rule took out is no field, unless the rule restores one of its name. -/
theorem get?_plainFields (planned : c.PlannedFrom n b) (rules : c.rules.rulesFor b.tag = [rule])
    (plain : isReservedName key = false) (used : key ∈ (rule.toFields n.params ∅).used)
    (apart : (rule.toFields n.params ∅).fields.get? key = none) {read : List String} :
    (c.plainFields b read).get? key = none := by
  refine Option.eq_none_iff_forall_ne_some.2 fun v given => ?_
  have held := (of_get?_plainFields given).2.1
  rw [planned.fields key plain, get?_plannedFields_of_rule rules, apart, Option.or_none,
    Option.filter_eq_some_iff] at held
  simp [used] at held

/-- If no reference is written, both its parts are gone. -/
theorem get?_lost_reference {field zoneKey idKey : String} (planned : c.PlannedFrom n b)
    (rules : c.rules.rulesFor b.tag = [.reference field zoneKey idKey])
    (plain : isReservedName key = false) (apart : field ≠ key)
    (used : key ∈ ((FieldRule.reference field zoneKey idKey).toFields n.params ∅).used)
    (unread : ((c.writtenFields b).get? field).bind FieldRule.referenceParts? = none) :
    (c.blockParams b).get? key = none := by
  have notRestored :
      ((FieldRule.reference field zoneKey idKey).toFields n.params ∅).fields.get? key = none := by
    rcases @toFields_reference zoneKey idKey field n.params with ⟨zone, id, -, -, eq⟩ | ⟨-, eq⟩
    · rw [eq, Dict.get?_insert, if_neg apart]
      rfl
    · rw [eq]
      rfl
  rw [blockParams_of_rule rules, FieldRule.toParams]
  simp only [unread]
  exact planned.get?_plainFields rules plain used notRestored

/-- The field of a reference is written as it stands among the parameters, or else as both parts in
one text. -/
theorem get?_written_reference {field zoneKey idKey : String} (planned : c.PlannedFrom n b)
    (rules : c.rules.rulesFor b.tag = [.reference field zoneKey idKey])
    (fieldAdmitted : ∀ v, c.admits b.tag field v = true) (apart : field ∉ [zoneKey, idKey])
    {zone id : Value} (zoneFound : n.params.get? zoneKey = some zone)
    (idFound : n.params.get? idKey = some id) :
    (c.writtenFields b).get? field =
      (n.params.get? field).or (some (.text (plainText zone ++ ":" ++ plainText id))) := by
  have eq : (FieldRule.reference field zoneKey idKey).toFields n.params ∅ =
      ⟨Dict.insert ∅ field (.text (plainText zone ++ ":" ++ plainText id)), [zoneKey, idKey]⟩ := by
    simp only [FieldRule.toFields, zoneFound, idFound]
  have written := planned.get?_written rules (by rwa [eq]) fieldAdmitted
  rwa [eq, get?_insert_none_self] at written

/-- A parameter that a rule for references uses comes back exactly if the rule can recover it. -/
theorem contains_reference {field zoneKey idKey : String} (planned : c.PlannedFrom n b)
    (rules : c.rules.rulesFor b.tag = [.reference field zoneKey idKey])
    (fieldAdmitted : ∀ v, c.admits b.tag field v = true)
    (plain : ∀ name ∈ [zoneKey, idKey], isReservedName name = false)
    (apart : field ∉ [zoneKey, idKey]) (bare : n.params.get? field = none)
    (used : key ∈ ((FieldRule.reference field zoneKey idKey).toFields n.params ∅).used) :
    (c.blockParams b).contains key = true ↔
      (FieldRule.reference field zoneKey idKey).Recoverable n.params := by
  rcases @toFields_reference zoneKey idKey field n.params with
    ⟨zone, id, zoneFound, idFound, eq⟩ | ⟨-, eq⟩
  case inr =>
    rw [eq] at used
    cases used
  have written :=
    planned.get?_written_reference rules fieldAdmitted apart zoneFound idFound
  rw [bare, Option.none_or] at written
  have isPart : key ∈ [zoneKey, idKey] := by rwa [eq] at used
  rw [FieldRule.recoverable_reference_iff zoneFound idFound]
  cases read : FieldRule.referenceParts? (.text (plainText zone ++ ":" ++ plainText id)) with
  | some parts =>
    have found : ((c.writtenFields b).get? field).bind FieldRule.referenceParts? =
        some (parts.1, parts.2) := by
      rw [written]
      exact read
    refine iff_of_true ?_ ⟨parts, rfl⟩
    rw [Dict.contains, get?_blockParams_reference rules found]
    rcases List.mem_pair.1 isPart with rfl | rfl
    · rw [if_pos rfl]
      split <;> rfl
    · rw [if_pos rfl]
      rfl
  | none =>
    have off : field ≠ key := fun same => apart (same ▸ isPart)
    have unread : ((c.writtenFields b).get? field).bind FieldRule.referenceParts? = none := by
      rw [written]
      exact read
    refine iff_of_false ?_ (nomatch ·)
    rw [Dict.contains, planned.get?_lost_reference rules (plain key isPart) off used unread]
    exact Bool.false_ne_true

/-- The fields of a pair are written as they stand among the parameters, or else as the members of
the object. -/
theorem get?_written_pair {pairKey : String} {first second : PairMember}
    (planned : c.PlannedFrom n b) (rules : c.rules.rulesFor b.tag = [.pair pairKey first second])
    (fieldsAdmitted : ∀ v,
      c.admits b.tag first.field v = true ∧ c.admits b.tag second.field v = true)
    (apart : first.field ≠ pairKey ∧ second.field ≠ pairKey ∧ first.field ≠ second.field)
    {object : Dict Value} (isObject : (n.params.get? pairKey).bind Value.members? = some object) :
    (c.writtenFields b).get? first.field =
        (n.params.get? first.field).or (object.get? first.key) ∧
      (c.writtenFields b).get? second.field =
        (n.params.get? second.field).or (object.get? second.key) := by
  have eq : (FieldRule.pair pairKey first second).toFields n.params ∅ =
      ⟨FieldRule.spread object ∅ [first, second], [pairKey]⟩ := by
    simp only [FieldRule.toFields, isObject]
  have atFirst := planned.get?_written rules (by rw [eq]; simpa using apart.1)
    fun v => (fieldsAdmitted v).1
  have atSecond := planned.get?_written rules (by rw [eq]; simpa using apart.2.1)
    fun v => (fieldsAdmitted v).2
  rw [eq, FieldRule.get?_spread, if_neg (Ne.symm apart.2.2), if_pos rfl, get?_none,
    Option.none_or, Option.or_none] at atFirst
  rw [eq, FieldRule.get?_spread, if_pos rfl, if_neg apart.2.2, get?_none,
    Option.none_or, Option.or_none] at atSecond
  exact ⟨atFirst, atSecond⟩

/-- A parameter that a rule for pairs uses comes back exactly if the rule can recover it. -/
theorem contains_pair {pairKey : String} {first second : PairMember} (planned : c.PlannedFrom n b)
    (rules : c.rules.rulesFor b.tag = [.pair pairKey first second])
    (fieldsAdmitted : ∀ v,
      c.admits b.tag first.field v = true ∧ c.admits b.tag second.field v = true)
    (plain : isReservedName pairKey = false)
    (apart : first.field ≠ pairKey ∧ second.field ≠ pairKey ∧ first.field ≠ second.field)
    (bare : n.params.get? first.field = none ∧ n.params.get? second.field = none)
    (used : key ∈ ((FieldRule.pair pairKey first second).toFields n.params ∅).used) :
    (c.blockParams b).contains key = true ↔
      (FieldRule.pair pairKey first second).Recoverable n.params := by
  cases isObject : (n.params.get? pairKey).bind Value.members? with
  | none =>
    simp only [FieldRule.toFields, isObject] at used
    cases used
  | some object =>
    obtain ⟨v, found, members⟩ := Option.bind_eq_some_iff.1 isObject
    have eq : (FieldRule.pair pairKey first second).toFields n.params ∅ =
        ⟨FieldRule.spread object ∅ [first, second], [pairKey]⟩ := by
      simp only [FieldRule.toFields, isObject]
    obtain ⟨atFirst, atSecond⟩ := planned.get?_written_pair rules fieldsAdmitted apart isObject
    rw [bare.1, Option.none_or] at atFirst
    rw [bare.2, Option.none_or] at atSecond
    have solid : (FieldRule.nested (c.writtenFields b) [first, second]).isEmpty = false ↔
        (object.get? first.key).isSome ∨ (object.get? second.key).isSome := by
      rw [FieldRule.isEmpty_nested, atFirst, atSecond, Bool.and_eq_false_iff,
        Option.isNone_eq_false_iff, Option.isNone_eq_false_iff]
    have atKey : key = pairKey := by
      rw [eq] at used
      exact List.mem_singleton.1 used
    rw [FieldRule.recoverable_pair_iff found members, ← solid]
    cases empty : (FieldRule.nested (c.writtenFields b) [first, second]).isEmpty with
    | false =>
      rw [Dict.contains, get?_blockParams_pair rules empty, if_pos atKey.symm]
      exact iff_of_true rfl rfl
    | true =>
      have gone : ∀ {read}, (c.plainFields b read).get? key = none := by
        refine planned.get?_plainFields rules (atKey ▸ plain) used ?_
        rw [eq, FieldRule.get?_spread, atKey, if_neg apart.2.1, if_neg apart.1]
        rfl
      rw [blockParams_of_rule rules, FieldRule.toParams]
      simp only [empty, if_true, Dict.contains, gone]
      exact iff_of_false Bool.false_ne_true Bool.false_ne_true.symm

/-- A JSON rule puts back what the text of the parameter stands for. -/
theorem get?_json {field : String} (planned : c.PlannedFrom n b)
    (rules : c.rules.rulesFor b.tag = [.json field])
    (fieldAdmitted : ∀ s, s ≠ "" → c.admits b.tag field (.text s) = true)
    (plain : isReservedName field = false) {v : Value} (found : n.params.get? field = some v) :
    (c.blockParams b).get? field =
      some ((Value.ofText? (jsonFieldText v)).getD (.text (jsonFieldText v))) := by
  have held : b.fields.get? field = some (.text (jsonFieldText v)) := by
    rw [planned.fields field plain, get?_plannedFields_json rules, found, Option.map_some]
  have written : (c.writtenFields b).get? field = some (.text (jsonFieldText v)) := by
    rw [get?_writtenFields, held]
    exact Option.filter_some_pos (fieldAdmitted _ (jsonFieldText_ne_empty v))
  rw [get?_blockParams_json rules, if_pos rfl, written]
  rfl

/-- A parameter that a rule for JSON uses always comes back. -/
theorem contains_json {field : String} (planned : c.PlannedFrom n b)
    (rules : c.rules.rulesFor b.tag = [.json field])
    (fieldAdmitted : ∀ s, s ≠ "" → c.admits b.tag field (.text s) = true)
    (plain : isReservedName field = false)
    (used : key ∈ ((FieldRule.json field).toFields n.params ∅).used) :
    (c.blockParams b).contains key = true := by
  cases found : n.params.get? field with
  | none =>
    simp only [FieldRule.toFields, found] at used
    cases used
  | some v =>
    simp only [FieldRule.toFields, found, List.mem_singleton] at used
    rw [used, Dict.contains, planned.get?_json rules fieldAdmitted plain found]
    rfl

/-! ## The built-in rules -/

theorem usedKeys_of_rule (planned : c.PlannedFrom n b) (rules : c.rules.rulesFor b.tag = [rule]) :
    c.usedKeys n = (rule.toFields n.params ∅).used := by
  rw [usedKeys, planned.tag]
  simp only [rules]
  exact List.nil_append _

theorem recoverable_of_rule (planned : c.PlannedFrom n b)
    (rules : c.rules.rulesFor b.tag = [rule]) :
    c.Recoverable n ↔ rule.Recoverable n.params := by
  constructor
  · exact fun h => h b.tag planned.tag rule (by rw [rules]; exact List.mem_cons_self)
  · intro h tag tag_eq other mem
    cases planned.tag.symm.trans tag_eq
    rw [rules] at mem
    rwa [List.mem_singleton.1 mem]

theorem get?_of_bare (planned : c.PlannedFrom n b) (rules : c.rules.rulesFor b.tag = [rule])
    (bare : c.Bare n) {name : String} (field : name ∈ rule.blockFields)
    (apart : name ∉ rule.paramKeys) : n.params.get? name = none := by
  refine bare b.tag planned.tag name ?_
  rw [RuleTable.interfaceFields, rules, List.flatMap_singleton, List.mem_filter]
  exact ⟨field, by simp [apart]⟩

/-- With the built-in rules a block is compiled to what the rules took out of its node, if that is
recoverable, and else to none of it. -/
theorem contains_iff_recoverable (builtIn : c.rules = .builtIn) (planned : c.PlannedFrom n b)
    (bare : c.Bare n) (used : key ∈ c.usedKeys n) :
    (c.blockParams b).contains key = true ↔ c.Recoverable n := by
  rcases RuleTable.rulesFor_builtIn b.tag with
    ⟨-, rules⟩ | ⟨-, rules⟩ | ⟨-, rules⟩ | ⟨-, rules⟩ | rules
  all_goals rw [← builtIn] at rules
  case inr.inr.inr.inr =>
    rw [usedKeys, planned.tag] at used
    simp only [rules] at used
    cases used
  all_goals
    rw [planned.usedKeys_of_rule rules] at used
    rw [planned.recoverable_of_rule rules]
  · have first : n.params.get? "targetRoomZoneId" = none :=
      planned.get?_of_bare rules bare (by decide) (by decide)
    have second : n.params.get? "targetRoomId" = none :=
      planned.get?_of_bare rules bare (by decide) (by decide)
    refine planned.contains_pair rules (fun v => ⟨?_, ?_⟩) (by decide) (by decide) ⟨first, second⟩
      used
    · exact admits_builtIn builtIn rules (by decide) (.inl (by decide))
    · exact admits_builtIn builtIn rules (by decide) (.inl (by decide))
  · refine planned.contains_reference rules (fun v => ?_) (by decide) (by decide)
      (planned.get?_of_bare rules bare List.mem_cons_self (by decide)) used
    exact admits_builtIn builtIn rules (by decide) (.inl (by decide))
  · refine planned.contains_reference rules (fun v => ?_) (by decide) (by decide)
      (planned.get?_of_bare rules bare List.mem_cons_self (by decide)) used
    exact admits_builtIn builtIn rules (by decide) (.inl (by decide))
  · refine iff_of_true (planned.contains_json rules (fun s nonempty => ?_) (by decide) used) trivial
    exact admits_builtIn builtIn rules (by decide) (.inr (isEmptyMark_text nonempty))

end PlannedFrom

/-! ## Documents -/

/-- Loading a document and compiling it at once rewrites its nodes one for one, and the known
effects among them, at any depth, are those of the document.  Of what the built-in rules take out of
a node, every parameter is there again exactly if it is recoverable. -/
theorem contains_iff_recoverable_all (c : Compiler) (d : Document) (builtIn : c.rules = .builtIn) :
    List.Forall₂ (fun n m => c.Rewritten n m ∧ (c.Bare n →
        ∀ key ∈ c.usedKeys n, m.params.contains key = true ↔ c.Recoverable n))
      (Node.preorderAll (c.arranged d.lift)) (Node.preorderAll (c.compile (c.rebuild d)).nodes) ∧
    ((Node.preorderAll (c.arranged d.lift)).filter (!·.isGate)).Perm
      ((Node.preorderAll d.lift).filter c.isKnownEffect) := by
  refine ⟨(c.forall₂_rewritten d).imp fun n m rewritten => ⟨rewritten, fun bare key used => ?_⟩,
    perm_arranged d.lift⟩
  obtain ⟨b, planned, params⟩ := rewritten.exists_planned
  rw [params]
  exact planned.contains_iff_recoverable builtIn bare used

/-- A compiler whose registry has a teleport. -/
def teleporter : Compiler where
  registry :=
    { snapshot := some { effects := [
        ⟨4, "Teleport", Dict.ofList [("targetRoom", { kind := .object })]⟩] }
      sound := by
        rintro s ⟨⟩
        exact Snapshot.fault?_eq_none_iff.1 (by decide)
      placeholderLabel := defaultPlaceholderLabel }

/-- A teleport to a target. -/
def teleportNode (target : Dict Value) : Node :=
  .effect 4 (Dict.ofList [("targetRoom", .object target)]) 0 none 100

/-- A document of that teleport. -/
def teleportTo (target : Dict Value) : Document := .ofNodes [teleportNode target]

theorem sound_teleportNode (target : Dict Value) : (teleportNode target).Sound :=
  ⟨by decide, by decide, fun branch => by cases branch <;> rfl⟩

theorem tag?_teleporter : teleporter.registry.tag? 4 = some "effect_teleport" := by decide

theorem usedKeys_teleportNode (target : Dict Value) :
    teleporter.usedKeys (teleportNode target) = ["targetRoom"] := by
  have given : (teleportNode target).params.get? "targetRoom" = some (.object target) := rfl
  have rules : teleporter.rules.rulesFor "effect_teleport" = [RuleTable.teleportRule] := rfl
  have tag : teleporter.tagOf? (teleportNode target) = some "effect_teleport" := tag?_teleporter
  rw [usedKeys, tag]
  simp only [rules, restore, RuleTable.teleportRule, List.foldl_cons, List.foldl_nil,
    FieldRule.toFields, given, Option.bind_some, Value.members?_object, List.nil_append]

theorem bare_teleportNode (target : Dict Value) : teleporter.Bare (teleportNode target) := by
  intro tag tag_eq name mem
  cases tag?_teleporter.symm.trans tag_eq
  have fields : teleporter.rules.interfaceFields "effect_teleport" =
      ["targetRoomZoneId", "targetRoomId"] := by decide
  rw [fields] at mem
  rcases List.mem_pair.1 mem with rfl | rfl <;> rfl

/-- A target without a zone is put back. -/
theorem contains_iff_recoverable_all_teleport :
    ∃ m, Node.preorderAll (teleporter.compile (teleporter.rebuild
        (teleportTo (Dict.ofList [("roomId", .int64 7)])))).nodes = [m] ∧
      m.params.contains "targetRoom" = true := by
  obtain ⟨rewritten, -⟩ := contains_iff_recoverable_all teleporter
    (teleportTo (Dict.ofList [("roomId", .int64 7)])) rfl
  obtain ⟨m, eq, -, kept⟩ := exists_of_forall₂_arranged (sound_teleportNode _) (by decide) rewritten
  have used : "targetRoom" ∈
      teleporter.usedKeys (teleportNode (Dict.ofList [("roomId", .int64 7)])) := by
    rw [usedKeys_teleportNode]
    exact List.mem_cons_self
  refine ⟨m, eq, (kept (bare_teleportNode _) "targetRoom" used).2 ?_⟩
  intro tag tag_eq rule mem
  cases tag?_teleporter.symm.trans tag_eq
  rw [List.mem_singleton.1 (mem : rule ∈ [RuleTable.teleportRule])]
  exact (FieldRule.recoverable_pair_iff rfl (Value.members?_object _)).2 (.inr rfl)

/-- An empty target is taken out of the node and not put back. -/
theorem used_and_lost :
    teleporter.rules = .builtIn ∧ teleporter.registry.isReady = true ∧
      (teleportTo ∅).lift = [teleportNode ∅] ∧
      teleporter.isKnownEffect (teleportNode ∅) = true ∧ teleporter.Bare (teleportNode ∅) ∧
      "targetRoom" ∈ teleporter.usedKeys (teleportNode ∅) ∧
      (Node.preorderAll (teleporter.compile (teleporter.rebuild (teleportTo ∅))).nodes).map
        (·.params.contains "targetRoom") = [false] := by
  have lifted : (teleportTo ∅).lift = [teleportNode ∅] :=
    Document.lift_ofNodes ⟨sound_teleportNode ∅, trivial⟩
  refine ⟨rfl, by decide, lifted, by decide, bare_teleportNode ∅, ?_, ?_⟩
  · rw [usedKeys_teleportNode]
    exact List.mem_cons_self
  · rw [compile, outline_rebuild]
    decide +kernel

end Compiler

end EffectFlow
