import EffectFlow.Proofs.Compile.Visits
import EffectFlow.Proofs.Rebuild.Programs

/-!
# Normalising documents

Loading a document and compiling it at once brings it into a normal form: doing so again changes
nothing (`Compiler.normalized_normalized`).  The document may be any.  Entries without a type,
effects of unknown numbers, orders that are shuffled or stand twice and parameters that no block has
are all gone after the first time.

A block of a rebuilt program is *planned from* a node of the document
(`Compiler.exists_plannedFrom`).  With the built-in rules no field of such a block holds directly
what a rule would write (`Compiler.PlannedFrom.indirect`), because the rules took it out of the
parameters.  So the parameters it is compiled to are settled, whatever those of its node were.
-/

namespace EffectFlow

open Json (Value)

namespace Compiler

/-- The document that comes of loading a document and compiling it at once. -/
def normalized (c : Compiler) (d : Document) : Document := c.document (c.rebuild d)

/-- The tag of the block that a node becomes, if there is one. -/
def tagOf? (c : Compiler) : Node → Option String
  | .effect id _ _ _ _ => c.registry.tag? id
  | .gate type _ _ _ _ => some type.tag

/-- The block has the tag of the node and the fields that are planned for its parameters, but for
names with a meaning of their own. -/
structure PlannedFrom (c : Compiler) (n : Node) (b : Block) : Prop where
  /-- The tag is that of the node. -/
  tag : c.tagOf? n = some b.tag
  /-- The fields are planned for the parameters of the node. -/
  fields : ∀ name, isReservedName name = false →
    b.fields.get? name = (c.plannedFields b.tag n.params).get? name

/-- The block is the first that is laid out for the node. -/
def FirstOf (c : Compiler) (n : Node) (b : Block) : Prop :=
  ∃ plan start next, c.plan? n = some plan ∧ (Plan.layout start next plan).head? = some b

/-- The numbers in the arguments of a scripting node read back from their texts. -/
def ScriptReadsBack (c : Compiler) (n : Node) : Prop :=
  c.tagOf? n = some "effect_script" → ∀ v, n.params.get? "args" = some v → v.tree.NumbersReadBack

variable {c : Compiler}

/-! ## Blocks of rebuilt programs -/

theorem exists_plan_of_mem_layoutChain {plans : List Plan} {start : Handle} {b : Block}
    (mem : b ∈ Plan.layoutChain start plans) :
    ∃ plan ∈ plans, ∃ first next, b ∈ Plan.layout first next plan := by
  induction plans generalizing start with
  | nil => cases mem
  | cons plan rest ih =>
    rw [Plan.layoutChain, List.mem_append] at mem
    rcases mem with here | later
    · exact ⟨plan, List.mem_cons_self, _, _, here⟩
    · obtain ⟨other, there, found⟩ := ih later
      exact ⟨other, List.mem_cons_of_mem _ there, found⟩

/-- The blocks of a chain belong to the plans of its nodes. -/
theorem exists_node_of_mem_layoutChain {nodes : List Node} {start : Handle} {b : Block}
    (mem : b ∈ Plan.layoutChain start (c.plans nodes)) :
    ∃ n ∈ nodes, ∃ plan first next, c.plan? n = some plan ∧ b ∈ Plan.layout first next plan := by
  obtain ⟨plan, listed, first, next, found⟩ := exists_plan_of_mem_layoutChain mem
  obtain ⟨entry, ordered, rfl⟩ := List.mem_map.1 listed
  obtain ⟨n, there, -, made⟩ := exists_node_of_mem_orderedPlans ordered
  exact ⟨n, there, entry.2, first, next, made, found⟩

mutual

/-- Each block of the plan of a node is the first block of some node below it. -/
theorem exists_first_of_plan? : ∀ {n : Node} {plan : Plan} {start : Handle} {next : Option Handle}
    {b : Block}, c.plan? n = some plan → b ∈ Plan.layout start next plan →
      ∃ m ∈ n.preorder, c.FirstOf m b
  | .effect id params order trigger chance, plan, start, next, b, made, mem => by
    obtain ⟨tag, known, rfl⟩ := Option.map_eq_some_iff.1 made
    rw [List.mem_singleton.1 mem]
    exact ⟨_, List.mem_cons_self, _, start, next, Option.map_eq_some_iff.2 ⟨tag, known, rfl⟩, rfl⟩
  | .gate type params order onPass onFail, plan, start, next, b, made, mem => by
    cases made
    rw [Plan.layout, List.mem_cons, List.mem_append] at mem
    rcases mem with rfl | inPass | inFail
    · exact ⟨_, List.mem_cons_self, _, start, next, rfl, rfl⟩
    · obtain ⟨n, there, plan, first, next, made, found⟩ := exists_node_of_mem_layoutChain inPass
      obtain ⟨m, below, isFirst⟩ := exists_first_of_mem there made found
      exact ⟨m, List.mem_cons_of_mem _ (List.mem_append_left _ below), isFirst⟩
    · obtain ⟨n, there, plan, first, next, made, found⟩ := exists_node_of_mem_layoutChain inFail
      obtain ⟨m, below, isFirst⟩ := exists_first_of_mem there made found
      exact ⟨m, List.mem_cons_of_mem _ (List.mem_append_right _ below), isFirst⟩

/-- The blocks of the plan of a node are the first blocks of the nodes of its tree. -/
theorem exists_first_of_mem : ∀ {nodes : List Node} {n : Node} {plan : Plan} {start : Handle}
    {next : Option Handle} {b : Block}, n ∈ nodes → c.plan? n = some plan →
      b ∈ Plan.layout start next plan → ∃ m ∈ Node.preorderAll nodes, c.FirstOf m b
  | [], _, _, _, _, _, there, _, _ => nomatch there
  | head :: rest, n, plan, start, next, b, there, made, mem => by
    simp only [Node.preorderAll, List.mem_append]
    rcases List.mem_cons.1 there with eq | there
    · rw [eq] at made
      obtain ⟨m, below, isFirst⟩ := exists_first_of_plan? made mem
      exact ⟨m, .inl below, isFirst⟩
    · obtain ⟨m, below, isFirst⟩ := exists_first_of_mem there made mem
      exact ⟨m, .inr below, isFirst⟩

end

/-- Every block of a rebuilt program is the first block of a node of the document, at some depth,
but for its place on the canvas. -/
theorem exists_first_of_block? {d : Document} {h : Handle} {b : Block}
    (there : (c.rebuild d).block? h = some b) :
    ∃ n ∈ Node.preorderAll d.lift, ∃ laid place, c.FirstOf n laid ∧
      b = { laid with position := place } := by
  obtain ⟨laid, place, found, b_eq⟩ := exists_laid_of_block? there
  obtain ⟨n, listed, plan, start, next, made, mem⟩ :=
    exists_node_of_mem_layoutChain (List.mem_of_getElem? found)
  obtain ⟨m, below, isFirst⟩ := exists_first_of_mem listed made mem
  exact ⟨m, below, laid, place, isFirst, b_eq⟩

/-- The first block of a node is planned from it. -/
theorem FirstOf.plannedFrom {n : Node} {b : Block} (isFirst : c.FirstOf n b) :
    c.PlannedFrom n b := by
  obtain ⟨plan, start, next, made, first⟩ := isFirst
  cases n with
  | effect id params order trigger chance =>
    obtain ⟨tag, known, rfl⟩ := Option.map_eq_some_iff.1 made
    cases first
    exact ⟨known, fun name plain => get?_withTriggerAndChance _ _ _ plain⟩
  | gate type params order onPass onFail =>
    cases made
    cases first
    exact ⟨rfl, fun name _ => rfl⟩

/-- Every block of a rebuilt program is planned from a node of the document, at some depth. -/
theorem exists_plannedFrom {d : Document} {b : Block} (mem : b ∈ (c.rebuild d).blocks) :
    ∃ n ∈ Node.preorderAll d.lift, c.PlannedFrom n b := by
  obtain ⟨h, there⟩ := List.mem_iff_getElem?.1 mem
  obtain ⟨n, below, laid, place, isFirst, rfl⟩ := exists_first_of_block? there
  exact ⟨n, below, isFirst.plannedFrom.tag, isFirst.plannedFrom.fields⟩

/-- No block of a rebuilt program waits for the registry: it is a gate, or the registry knows its
effect. -/
theorem placeholders_rebuild (c : Compiler) (d : Document) :
    (c.compile (c.rebuild d)).placeholders = [] := by
  show c.placeholdersOf (c.rebuild d).outline = []
  rw [placeholdersOf_eq_filter (c.rebuild d).allOf_outline, List.filter_eq_nil_iff]
  intro h _
  cases there : (c.rebuild d).block? h with
  | none => simp [waitsAt, Program.tag?, there]
  | some b =>
    obtain ⟨n, -, planned⟩ := exists_plannedFrom (List.mem_of_getElem? there)
    have tag := planned.tag
    cases n with
    | effect id params order trigger chance =>
      obtain ⟨effect, mem, -⟩ := c.registry.holds_index.tag?_iff.1 tag
      have ready := Registry.isReady_of_mem mem
      simp [waitsAt, ready]
    | gate type params order onPass onFail =>
      have tag_eq : type.tag = b.tag := Option.some.inj tag
      have isGate : GateKind.ofTag? b.tag = some type := by rw [← tag_eq, GateKind.ofTag?_tag]
      simp [waitsAt_of_isGate there isGate]

/-! ## Planned fields -/

section

variable {tag : String} {params : Dict Value}

theorem get?_plannedFields_of_rule {rule : FieldRule} (rules : c.rules.rulesFor tag = [rule])
    (name : String) :
    (c.plannedFields tag params).get? name =
      ((params.get? name).filter fun _ =>
        !(rule.toFields params ∅).used.contains name && !isReservedName name &&
          (c.fieldsOf tag).contains name).or ((rule.toFields params ∅).fields.get? name) := by
  rw [get?_plannedFields, rules]
  rfl

/-- With a reference rule no two parts of a reference are planned as fields. -/
theorem get?_plannedFields_reference {field zoneKey idKey : String}
    (rules : c.rules.rulesFor tag = [.reference field zoneKey idKey]) (apart : field ≠ zoneKey) :
    (c.plannedFields tag params).get? zoneKey = none ∨
      (c.plannedFields tag params).get? idKey = none := by
  simp only [get?_plannedFields_of_rule rules]
  rcases @toFields_reference zoneKey idKey field params with
    ⟨zone, id, -, -, eq⟩ | ⟨missing, eq⟩
  · left
    simp [eq, Dict.get?_insert, get?_none, apart]
  · rcases missing with missing | missing
    · left
      simp [eq, missing, get?_none]
    · right
      simp [eq, missing, get?_none]

/-- With a pair rule no object is planned in the place of the pair. -/
theorem members?_plannedFields_pair {key : String} {first second : PairMember}
    (rules : c.rules.rulesFor tag = [.pair key first second])
    (apart : first.field ≠ key ∧ second.field ≠ key) {v : Value}
    (planned : (c.plannedFields tag params).get? key = some v) : v.members? = none := by
  rw [get?_plannedFields_of_rule rules] at planned
  cases isObject : (params.get? key).bind Value.members? with
  | none =>
    simp only [FieldRule.toFields, isObject, get?_none, Option.or_none,
      Option.filter_eq_some_iff] at planned
    rw [planned.1] at isObject
    exact isObject
  | some object =>
    simp [FieldRule.toFields, isObject, FieldRule.get?_spread, get?_none, apart] at planned

/-- With a JSON rule the field is planned with the text of the parameter. -/
theorem get?_plannedFields_json {field : String} (rules : c.rules.rulesFor tag = [.json field]) :
    (c.plannedFields tag params).get? field =
      (params.get? field).map fun v => .text (jsonFieldText v) := by
  rw [get?_plannedFields_of_rule rules]
  cases found : params.get? field with
  | none => simp [FieldRule.toFields, found, get?_none]
  | some v => simp [FieldRule.toFields, found, Dict.get?_insert]

end

/-! ## Settled again -/

namespace PlannedFrom

variable {n : Node} {b : Block}

/-- With the built-in rules no planned field holds directly what a rule would write. -/
theorem indirect (builtIn : c.rules = .builtIn) (planned : c.PlannedFrom n b) : b.Indirect := by
  have atTag : ∀ {tag : String}, b.tag = tag → c.rules.rulesFor b.tag =
      RuleTable.builtIn.rulesFor tag := by
    rintro _ rfl
    rw [builtIn]
  constructor
  · intro tag
    simp only [planned.fields _ (show isReservedName "creatureZoneId" = false by decide),
      planned.fields _ (show isReservedName "creatureId" = false by decide)]
    exact get?_plannedFields_reference (atTag tag) (by decide)
  · intro tag
    simp only [planned.fields _ (show isReservedName "itemZoneId" = false by decide),
      planned.fields _ (show isReservedName "itemId" = false by decide)]
    exact get?_plannedFields_reference (atTag tag) (by decide)
  · intro tag v found
    rw [planned.fields _ (by decide)] at found
    exact members?_plannedFields_pair (atTag tag) (by decide) found
  · intro tag v found notText
    rw [planned.fields _ (by decide), get?_plannedFields_json (atTag tag)] at found
    obtain ⟨u, -, rfl⟩ := Option.map_eq_some_iff.1 found
    cases notText

/-- The arguments of a planned script read back if those of its node do. -/
theorem argsReadBack (builtIn : c.rules = .builtIn) (planned : c.PlannedFrom n b)
    (numbers : c.ScriptReadsBack n) : c.ArgsReadBack b := by
  intro tag v found
  have rules : c.rules.rulesFor b.tag = [.json "args"] := by
    rw [builtIn, tag]
    rfl
  rw [get?_blockParams_json rules, if_pos rfl] at found
  obtain ⟨field, written, rfl⟩ := Option.map_eq_some_iff.1 found
  have held := (admits_of_get?_writtenFields written).2
  rw [planned.fields _ (by decide), get?_plannedFields_json rules] at held
  obtain ⟨u, given, rfl⟩ := Option.map_eq_some_iff.1 held
  exact numbersReadBack_ofText?_jsonFieldText (numbers (by rw [planned.tag, tag]) u given)

end PlannedFrom

/-- With the built-in rules the parameters of rebuilt blocks are settled, whatever the document. -/
theorem settled_blockParams_rebuild (builtIn : c.rules = .builtIn) {d : Document}
    (numbers : ∀ n ∈ Node.preorderAll d.lift, c.ScriptReadsBack n) :
    ∀ b ∈ (c.rebuild d).blocks, c.Settled b.tag (c.blockParams b) := by
  intro b mem
  obtain ⟨n, there, planned⟩ := exists_plannedFrom mem
  exact settled_blockParams builtIn (planned.indirect builtIn)
    (planned.argsReadBack builtIn (numbers n there))

/-- Loading and compiling a document once brings it into normal form: doing so again changes
nothing.  What then stands in the document are the compiled nodes, which survive the way to blocks
and back and are numbered from zero.  The numbers in the arguments of scripts have to read back from
their texts. -/
theorem normalized_normalized (c : Compiler) (d : Document) (builtIn : c.rules = .builtIn)
    (small : (c.compile (c.rebuild d)).nodeCount < words32)
    (numbers : ∀ n ∈ Node.preorderAll d.lift, c.ScriptReadsBack n) :
    c.normalized (c.normalized d) = c.normalized d ∧
      (c.normalized d).lift = (c.compile (c.rebuild d)).nodes ∧
      c.StableAll (c.normalized d).lift ∧ Node.NumberedAll 0 (c.normalized d).lift := by
  have settled := settled_blockParams_rebuild builtIn numbers
  have stable : c.StableAll (c.compile (c.rebuild d)).nodes :=
    stableAll_nodes settled (c.rebuild d).allOf_outline (c.placeholders_rebuild d)
  have numbered := c.numberedAll_compile (c.rebuild d)
  have lifted : (c.normalized d).lift = (c.compile (c.rebuild d)).nodes :=
    Document.lift_ofNodes (soundAll_of_stableAll builtIn stable)
  rw [lifted]
  exact ⟨document_rebuild_of_stable builtIn stable numbered (Nat.le_of_lt small), rfl, stable,
    numbered⟩

/-- A document in disorder.  Two orders are the same, a number is unknown, a trigger is no trigger
and a chance no percentage.  A branch holds half of a reference and a text, the other is no
array. -/
def disorder : Document where
  nodes := [
    { effectId := some 9, gateName := none
      params := Dict.ofList [("args", .array [.int64 1]), ("stray", .null)]
      order := 4, trigger := some "on_moon", chance := 250 },
    { effectId := some 99, gateName := none, params := ∅
      order := 4, trigger := none, chance := 100 },
    { effectId := none, gateName := some "chance"
      params := Dict.ofList [
        ("percentage", .int64 50),
        ("onPass", .array [
          StoredNode.toValue {
            effectId := some 7, gateName := none
            params := Dict.ofList [("creatureZoneId", .int64 3)]
            order := 0, trigger := none, chance := 75 },
          .text "no node"]),
        ("onFail", .text "no branch")]
      order := 1, trigger := none, chance := 100 }]

/-- Three nodes of the document in disorder are left, and then it stays. -/
theorem normalized_normalized_disorder :
    (twoEffects.compile (twoEffects.rebuild disorder)).nodeCount = 3 ∧
      twoEffects.normalized (twoEffects.normalized disorder) = twoEffects.normalized disorder := by
  have count : (twoEffects.compile (twoEffects.rebuild disorder)).nodeCount = 3 := by
    rw [nodeCount_compile, outline_rebuild]
    decide +kernel
  have args : ∀ n ∈ Node.preorderAll disorder.lift,
      n.params.get? "args" = none ∨ n.params.get? "args" = some (.array [.int64 1]) := by
    decide +kernel
  refine ⟨count, (normalized_normalized twoEffects disorder rfl (by rw [count]; decide) ?_).1⟩
  intro n mem _ v found
  rcases args n mem with none | one
  · rw [none] at found
    cases found
  · rw [one] at found
    cases found
    exact ⟨Json.Number.readsBack_integer _ _, trivial⟩

end Compiler

end EffectFlow
