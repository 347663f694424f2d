import EffectFlow.Proofs.Compile.Nodes
import EffectFlow.Proofs.Pipeline.Lifting
import EffectFlow.Proofs.Rebuild.BlockParams
import EffectFlow.Proofs.Rebuild.Nodes

/-!
# Rebuilding compiled programs

The nodes of a compiled program are stable, if nothing was written with the placeholder and the
parameters of its blocks are settled (`Compiler.stableAll_nodes`).  So the document of a program is
compiled again from the program that is rebuilt from it
(`Compiler.document_rebuild_document`).
-/

namespace EffectFlow

open Json (Value)

namespace Compiler

variable {c : Compiler}

/-! ## Stable nodes are sound -/

/-- A rule uses its own parameters only. -/
theorem used_subset_paramKeys (rule : FieldRule) (params fields : Dict Value) {key : String}
    (h : key ∈ (rule.toFields params fields).used) : key ∈ rule.paramKeys := by
  cases rule with
  | reference field zoneKey idKey =>
    simp only [FieldRule.toFields] at h
    split at h
    · exact h
    · cases h
  | pair k first second =>
    simp only [FieldRule.toFields] at h
    split at h
    · exact h
    · cases h
  | json field =>
    simp only [FieldRule.toFields] at h
    split at h
    · exact h
    · cases h

theorem mem_paramKeys_of_mem_used {rules : List FieldRule} {params : Dict Value} {key : String}
    (h : key ∈ (restore rules params).used) : key ∈ rules.flatMap (·.paramKeys) := by
  have general : ∀ (rules : List FieldRule) (done : Restored),
      key ∈ (rules.foldl (fun done rule =>
        let next := rule.toFields params done.fields
        ⟨next.fields, done.used ++ next.used⟩) done).used →
          key ∈ done.used ∨ key ∈ rules.flatMap (·.paramKeys) := by
    intro rules
    induction rules with
    | nil => exact fun done mem => .inl mem
    | cons rule rest ih =>
      intro done mem
      rw [List.flatMap_cons, List.mem_append]
      rcases ih _ mem with before | later
      · rcases List.mem_append.1 before with early | here
        · exact .inl early
        · exact .inr (.inl (used_subset_paramKeys rule params _ here))
      · exact .inr (.inr later)
  rcases general rules _ h with nothing | mem
  · cases nothing
  · exact mem

/-- No parameter of a built-in rule has a reserved name. -/
theorem isReservedName_of_mem_paramKeys {tag key : String}
    (h : key ∈ (RuleTable.builtIn.rulesFor tag).flatMap (·.paramKeys)) :
    isReservedName key = false := by
  have each : ∀ e ∈ RuleTable.builtIn.entries, ∀ key ∈ e.2.paramKeys,
      isReservedName key = false := by decide
  obtain ⟨rule, ofTag, mem⟩ := List.mem_flatMap.1 h
  obtain ⟨e, inTable, rfl⟩ := List.mem_map.1 ofTag
  exact each e (List.mem_filter.1 inTable).1 key mem

theorem isReservedName_key (branch : Branch) : isReservedName branch.key = true := by
  cases branch <;> decide

/-- With the built-in rules no settled parameter stands under the name of a branch. -/
theorem Settled.branchFree {tag : String} {params : Dict Value} (builtIn : c.rules = .builtIn)
    (settled : c.Settled tag params) : BranchFree params := by
  intro branch
  refine Option.eq_none_iff_forall_ne_some.2 fun v found => ?_
  by_cases used : branch.key ∈ (restore (c.rules.rulesFor tag) params).used
  · have plain : isReservedName branch.key = false := by
      refine @isReservedName_of_mem_paramKeys tag branch.key ?_
      rw [← builtIn]
      exact mem_paramKeys_of_mem_used used
    rw [isReservedName_key] at plain
    cases plain
  · have admitted := (settled.kept branch.key v found used).1
    rw [admits, isReservedName_key] at admitted
    simp at admitted

mutual

/-- With the built-in rules a document can hold all of a stable node. -/
theorem sound_of_stable (builtIn : c.rules = .builtIn) : ∀ {n : Node}, c.Stable n → n.Sound
  | .effect _ _ _ _ _, ⟨⟨_, known, settled⟩, percent⟩ =>
    ⟨Registry.ne_zero_of_tag? known, percent, settled.branchFree builtIn⟩
  | .gate _ _ _ _ _, ⟨settled, pass, fail⟩ =>
    ⟨settled.branchFree builtIn, soundAll_of_stableAll builtIn pass,
      soundAll_of_stableAll builtIn fail⟩

theorem soundAll_of_stableAll (builtIn : c.rules = .builtIn) :
    ∀ {nodes : List Node}, c.StableAll nodes → Node.SoundAll nodes
  | [], _ => trivial
  | _ :: _, ⟨stable, rest⟩ =>
    ⟨sound_of_stable builtIn stable, soundAll_of_stableAll builtIn rest⟩

end

/-- The document of stable nodes that are numbered from zero is compiled again from the program
that is rebuilt from it. -/
theorem document_rebuild_of_stable (builtIn : c.rules = .builtIn) {nodes : List Node}
    (stable : c.StableAll nodes) (numbered : Node.NumberedAll 0 nodes)
    (small : Node.sizes nodes ≤ words32) :
    c.document (c.rebuild (.ofNodes nodes)) = .ofNodes nodes := by
  have lifted : (Document.ofNodes nodes).lift = nodes :=
    Document.lift_ofNodes (soundAll_of_stableAll builtIn stable)
  have compiled : (c.compile (c.rebuild (.ofNodes nodes))).nodes = nodes := by
    rw [nodes_rebuild (by rwa [lifted]) (by rwa [lifted]) (by rwa [lifted]), lifted]
  show Document.ofNodes (c.compile (c.rebuild (.ofNodes nodes))).nodes = _
  rw [compiled]

/-! ## Compiled nodes are stable -/

theorem percent_le (x : Binary64) : (percent x).toNat ≤ 100 := by
  rw [percent, UInt8.toNat_ofNat']
  generalize x.roundHalfAway = n
  have small : (max 0 (min 100 n)).toNat ≤ 100 := by omega
  exact Nat.le_trans (Nat.mod_le _ _) small

theorem blockChance_le (b : Block) : (blockChance b).toNat ≤ 100 := by
  have ofText : ∀ s q, percentOfText? s = some q → q.toNat ≤ 100 := by
    intro s q h
    simp only [percentOfText?] at h
    split at h
    · cases h
      exact percent_le _
    · cases h
      split <;> decide
    · cases h
      decide
    · cases h
  rw [blockChance]
  split
  · exact percent_le _
  · next s _ =>
    cases read : percentOfText? s with
    | none => exact Nat.le_refl _
    | some q => exact ofText s q read
  · exact Nat.le_refl _

/-- A number that is found for a tag, and is no placeholder, has this tag. -/
theorem tag?_of_effectId? {tag : String} {id : UInt32} (known : c.effectId? tag = some id)
    (real : c.isPlaceholder tag = false) : c.registry.tag? id = some tag := by
  rw [effectId?] at known
  split at known
  · next n found =>
    cases known
    exact Registry.resolve_eq_found_iff.1 found
  · next missing =>
    split at known
    · next isEffect =>
      rw [isPlaceholder, missing, isEffect] at real
      cases real
    · cases known
  · cases known

mutual

/-- What a part of an outline becomes is stable. -/
theorem stable_of_node? {p : Program}
    (settled : ∀ b ∈ p.blocks, c.Settled b.tag (c.blockParams b)) :
    ∀ {o : Outline} {start : Nat} {n : Node}, o.Of p → c.placeholders o = [] →
      c.node? p start o = some n → c.Stable n
  | .missing _, _, _, _, _, made => nomatch made
  | .loop _ _, _, _, _, _, made => nomatch made
  | .plain h tag, start, n, ⟨b, there, tag_eq, _⟩, real, made => by
    have notPlaceholder : c.isPlaceholder tag = false := by
      cases written : c.isPlaceholder tag with
      | false => rfl
      | true =>
        rw [placeholders, if_pos written] at real
        cases real
    rw [node?, there] at made
    cases known : c.effectId? tag with
    | none =>
      rw [known] at made
      cases made
    | some id =>
      rw [known] at made
      cases made
      refine ⟨⟨tag, tag?_of_effectId? known notPlaceholder, ?_⟩, blockChance_le b⟩
      rw [← tag_eq]
      exact settled b (List.mem_of_getElem? there)
  | .gate h tag type onPass onFail, start, n, ⟨⟨b, there, tag_eq, isGate⟩, ofPass, ofFail⟩, real,
      made => by
    rw [placeholders, List.append_eq_nil_iff] at real
    rw [node?, there] at made
    cases made
    refine ⟨?_, stableAll_nodes settled ofPass real.1, stableAll_nodes settled ofFail real.2⟩
    have type_tag : type.tag = b.tag := by rw [tag_eq, GateKind.ofTag?_eq_some_iff.1 isGate]
    rw [type_tag]
    exact settled b (List.mem_of_getElem? there)

/-- What an outline becomes is stable. -/
theorem stableAll_nodes {p : Program}
    (settled : ∀ b ∈ p.blocks, c.Settled b.tag (c.blockParams b)) :
    ∀ {os : List Outline} {start : Nat}, Outline.AllOf p os → c.placeholdersOf os = [] →
      c.StableAll (c.nodes p start os)
  | [], _, _, _ => trivial
  | o :: rest, start, ⟨ofHead, ofRest⟩, real => by
    rw [placeholdersOf, List.append_eq_nil_iff] at real
    rw [nodes]
    cases made : c.node? p start o with
    | none => exact stableAll_nodes settled ofRest real.2
    | some n =>
      exact ⟨stable_of_node? settled ofHead real.1 made, stableAll_nodes settled ofRest real.2⟩

end

/-! ## Documents of programs -/

theorem nodeCount_compile (c : Compiler) (p : Program) :
    (c.compile p).nodeCount = c.outlineSizes p.outline :=
  (nodes_numbered 0 p.allOf_outline).2

/-- The document of a program is compiled again from the program that is rebuilt from it. -/
theorem document_rebuild_document (c : Compiler) (p : Program) (builtIn : c.rules = .builtIn)
    (loaded : (c.compile p).placeholders = []) (small : (c.compile p).nodeCount < words32)
    (indirect : ∀ b ∈ p.blocks, b.Indirect) (numbers : ∀ b ∈ p.blocks, c.ArgsReadBack b) :
    c.document (c.rebuild (c.document p)) = c.document p := by
  have settled : ∀ b ∈ p.blocks, c.Settled b.tag (c.blockParams b) :=
    fun b mem => settled_blockParams builtIn (indirect b mem) (numbers b mem)
  have stable : c.StableAll (c.compile p).nodes :=
    stableAll_nodes settled p.allOf_outline loaded
  exact document_rebuild_of_stable builtIn stable (c.numberedAll_compile p) (Nat.le_of_lt small)

/-- A compiler whose registry has an effect with a reference and one with a script. -/
def twoEffects : Compiler where
  registry :=
    { snapshot := some { effects := [
        ⟨7, "Summon", Dict.ofList [("creatureZoneId", {}), ("creatureId", {})]⟩,
        ⟨9, "Script", ∅⟩] }
      sound := by
        rintro s ⟨⟩
        exact Snapshot.fault?_eq_none_iff.1 (by decide)
      placeholderLabel := defaultPlaceholderLabel }

/-- A gate before a summons, and a script after the gate. -/
def gatedSummons : Program where
  blocks := [
    { tag := "gate_chance"
      fields := Dict.ofList [("percentage", .number (.ofNat 50 (by decide)))]
      slots := Dict.ofList [("onPass", 1)]
      next := some 2 },
    { tag := "effect_summon"
      fields := Dict.ofList [("creatureRef", .text "3:12"), ("trigger", .text "on_hit")] },
    { tag := "effect_script"
      fields := Dict.ofList [("args", .text "[1]")] }]
  chains := [0]

theorem outline_gatedSummons : gatedSummons.outline =
    [.gate 0 "gate_chance" .chance [.plain 1 "effect_summon"] [], .plain 2 "effect_script"] := by
  have outer : gatedSummons.chain 0 = [0, 2] := by decide +kernel
  have inner : gatedSummons.chain 1 = [1] := by decide +kernel
  have pass : gatedSummons.outlineWithin [0] (gatedSummons.chain 1) =
      [.plain 1 "effect_summon"] := by
    rw [inner, Program.outlineWithin_cons_plain rfl rfl, Program.outlineWithin]
  show gatedSummons.outlineWithin [] (gatedSummons.chain 0) ++ [] = _
  rw [List.append_nil, outer, Program.outlineWithin_cons_gate rfl rfl List.not_mem_nil,
    Program.outlineWithin_cons_plain rfl rfl, Program.outlineWithin]
  show Outline.gate 0 _ _ (gatedSummons.outlineWithin [0] (gatedSummons.chain 1)) [] :: _ = _
  rw [pass]

theorem document_rebuild_gatedSummons :
    (twoEffects.compile gatedSummons).nodeCount = 3 ∧
      twoEffects.document (twoEffects.rebuild (twoEffects.document gatedSummons)) =
        twoEffects.document gatedSummons := by
  have count : (twoEffects.compile gatedSummons).nodeCount = 3 := by
    rw [nodeCount_compile, outline_gatedSummons]
    decide
  refine ⟨count, document_rebuild_document twoEffects gatedSummons rfl ?_ ?_ ?_ ?_⟩
  · show twoEffects.placeholdersOf gatedSummons.outline = []
    rw [outline_gatedSummons]
    decide
  · rw [count]
    decide
  · intro b mem
    simp only [gatedSummons, List.mem_cons, List.not_mem_nil, or_false] at mem
    rcases mem with rfl | rfl | rfl
    · constructor <;> exact fun tag => absurd tag (by decide)
    · exact ⟨fun _ => .inl (by decide), fun tag => absurd tag (by decide),
        fun tag => absurd tag (by decide), fun tag => absurd tag (by decide)⟩
    · refine ⟨fun tag => absurd tag (by decide), fun tag => absurd tag (by decide),
        fun tag => absurd tag (by decide), fun _ v found notText => ?_⟩
      cases found
      cases notText
  · intro b mem tag v found
    simp only [gatedSummons, List.mem_cons, List.not_mem_nil, or_false] at mem
    rcases mem with rfl | rfl | rfl
    · exact absurd tag (by decide)
    · exact absurd tag (by decide)
    · have args : (twoEffects.blockParams
          { tag := "effect_script", fields := Dict.ofList [("args", .text "[1]")] }).get? "args" =
            some (.array [.number (.ofNat 1 (by decide))]) := by decide +kernel
      rw [args] at found
      cases found
      exact ⟨Json.Number.readsBack_integer _ _, trivial⟩

end Compiler

end EffectFlow
