import EffectFlow.Proofs.Fields.Stability
import EffectFlow.Proofs.Validation.Places

/-!
# References to entities resolve

The reference to an entity is the text that a reference rule writes for its zone and its number
(`Entity.reference_eq`), so the rule reads these two back (`FieldRule.toParams_reference`).  A
registry has an entity of each zone and number that it lists a reference for
(`Registry.exists_entity?`), perhaps not the one that was listed if there are several.

A validator looks for the entity of a parameter under a name that ends in `Id` and the parameter
with the name of its zone (`Validator.referenceProblem?_pair`).  So it finds no fault with the two
parameters of a listed reference (`Registry.references_resolve`).
-/

namespace EffectFlow

open Json (Value Number)

/-! ## Listed references -/

theorem plainText_int64 (n : Int64) : plainText (.int64 n) = toString n.toInt := by
  rw [← String.toList_inj, Json.toList_toString_int]
  exact (toList_plainText_number (.ofInt64 n)).trans (Json.text_integer n.toInt _)

/-- The reference to an entity is written by a reference rule. -/
theorem Entity.reference_eq (e : Entity) :
    e.reference = plainText (.int64 e.zoneId) ++ ":" ++ plainText (.int64 e.id) := by
  rw [plainText_int64, plainText_int64]
  rfl

/-- An entity that is installed is found by its zone and number, or another with the same. -/
theorem Registry.exists_entity? {r : Registry} {kind : EntityKind} {e : Entity}
    (mem : e ∈ r.entities kind) :
    ∃ found, r.entity? kind e.zoneId e.id = some found ∧ found.zoneId = e.zoneId ∧
      found.id = e.id := by
  have matched : (r.entity? kind e.zoneId e.id).isSome := by
    rw [entity?, List.find?_isSome]
    exact ⟨e, mem, by simp⟩
  obtain ⟨found, eq⟩ := Option.isSome_iff_exists.1 matched
  have same := List.find?_some eq
  rw [Bool.and_eq_true, beq_iff_eq, beq_iff_eq] at same
  exact ⟨found, eq, same⟩

namespace FieldRule

variable {field zoneKey idKey : String} {fields params : Dict Value}

/-- A reference rule makes two signed words of the reference to an entity. -/
theorem toParams_reference {e : Entity} (held : fields.get? field = some (.text e.reference)) :
    (reference field zoneKey idKey).toParams fields params =
      (params.insert zoneKey (.int64 e.zoneId)).insert idKey (.int64 e.id) := by
  have parts := referenceParts?_text (readsAsPart_int64 e.zoneId) (readsAsPart_int64 e.id)
    (colon_notMem_plainText_int64 e.zoneId)
  rw [← e.reference_eq] at parts
  have found : (fields.get? field).bind referenceParts? =
      some ((plainText (.int64 e.zoneId)).toList, (plainText (.int64 e.id)).toList) := by
    rw [held, Option.bind_some, parts]
  simp only [toParams, found, (readsAsPart_int64 _).1]

/-- It restores the reference to an entity from two signed words. -/
theorem toFields_reference {e : Entity} (atZone : params.get? zoneKey = some (.int64 e.zoneId))
    (atId : params.get? idKey = some (.int64 e.id)) :
    (reference field zoneKey idKey).toFields params fields =
      ⟨fields.insert field (.text e.reference), [zoneKey, idKey]⟩ := by
  simp only [toFields, atZone, atId, e.reference_eq]

end FieldRule

/-! ## Missing entities -/

theorem EntityKind.head?_name_injective {kind kind' : EntityKind}
    (same : kind.name.toList.head? = kind'.name.toList.head?) : kind = kind' := by
  cases kind <;> cases kind' <;> first | rfl | exact absurd same (by decide)

theorem Text.before?_append (front ending : List Char) :
    before? ending (front ++ ending) = some front := by
  rw [before?, List.reverse_append, after?_append, Option.map_some, List.reverse_reverse]

namespace Validator

theorem signedWord?_int64 (n : Int64) : signedWord? (.int64 n) = some n := by
  have small : n.toInt ≤ maxSigned64 := Int.le_of_lt_add_one n.toInt_lt
  have read : (Number.ofInt64 n).signed? = some n.toInt := if_pos small
  show (((some (Number.ofInt64 n)).bind (·.signed?)).map Int64.ofInt) = _
  rw [Option.bind_some, read, Option.map_some, Int64.ofInt_toInt]

/-- The entity of two parameters is the one of their zone and number. -/
theorem referenceProblem?_pair {registry : Registry} {params : Dict Value} {stem : String}
    {kind : EntityKind} {zone id : Int64}
    (atZone : params.get? (stem ++ "ZoneId") = some (.int64 zone)) :
    referenceProblem? registry params (stem ++ "Id") kind (.int64 id) =
      if (registry.entity? kind zone id).isNone then
        some (.danglingReference (stem ++ "Id") kind zone id)
      else none := by
  simp only [referenceProblem?, String.toList_append, Text.before?_append, String.ofList_toList,
    Option.bind_eq_bind, Option.bind_some, atZone, signedWord?_int64]

/-- A dangling reference is reported for the parameter and the kind that were checked. -/
theorem of_referenceProblem?_eq_some {registry : Registry} {params : Dict Value}
    {name name' : String} {kind kind' : EntityKind} {u : Value} {zone id : Int64}
    (found : referenceProblem? registry params name kind u =
      some (.danglingReference name' kind' zone id)) : name = name' ∧ kind = kind' := by
  simp only [referenceProblem?, Option.bind_eq_bind, Option.bind_eq_some_iff] at found
  obtain ⟨_, _, _, _, _, _, found⟩ := found
  split at found
  · cases found
    exact ⟨rfl, rfl⟩
  · cases found

/-- A missing entity is that of a parameter. -/
theorem exists_of_danglingReference_mem {registry : Registry} {w : StoredNode} {name : String}
    {kind : EntityKind} {zone id : Int64}
    (mem : .danglingReference name kind zone id ∈ schemaProblems registry w) :
    ∃ u, w.params.get? name = some u ∧
      referenceProblem? registry w.params name kind u =
        some (.danglingReference name kind zone id) := by
  rw [schemaProblems] at mem
  split at mem
  · split at mem
    · cases mem
    · split at mem
      · cases List.mem_singleton.1 mem
      · obtain ⟨⟨name', spec⟩, -, found⟩ := List.mem_filterMap.1 mem
        simp only [parameterProblem?] at found
        split at found
        · split at found <;> cases found
        · next u held =>
          split at found
          · cases found
          · obtain ⟨kind', -, found⟩ := Option.bind_eq_some_iff.1 found
            obtain ⟨rfl, rfl⟩ := of_referenceProblem?_eq_some found
            exact ⟨u, held, found⟩
  · cases mem

/-- The problems of the schema layer that are raised at a node are those of its parameters. -/
theorem mem_schemaProblems_of_mem_raised {v : Validator} {path : NodePath} {earlier : List Visit}
    {w : StoredNode} {onPass onFail : List Entry} {p : Problem}
    (mem : p ∈ v.raised ⟨path, earlier, .node w onPass onFail⟩) (schema : p.layer = .schema) :
    p ∈ schemaProblems v.registry w := by
  rcases of_mem_raised_node mem with ofFields | ⟨branch, atBranch⟩ | found | legacy
  · exact absurd (ofFields.layer.symm.trans schema) (by decide)
  · exact absurd ((layer_of_mem_branchProblem? p atBranch).symm.trans schema) (by decide)
  · exact found
  · exact absurd ((of_mem_legacyProblems legacy).1.symm.trans schema) (by decide)

theorem head?_message {name : String} {kind : EntityKind} {zone id : Int64} :
    (Problem.danglingReference name kind zone id).message.toList.head? =
      kind.name.toList.head? := by
  show (kind.name ++ " " ++ toString zone.toInt ++ ":" ++ toString id.toInt ++
    " not found in the registry").toList.head? = _
  cases kind <;> simp [EntityKind.name]

/-- The finding of a missing entity tells the name and the kind. -/
theorem of_finding_eq {p : Problem} {path path' : NodePath} {name : String} {kind : EntityKind}
    {zone id : Int64}
    (same : p.finding path' = (Problem.danglingReference name kind zone id).finding path) :
    path' = path ∧ ∃ zone' id', p = .danglingReference name kind zone' id' := by
  obtain ⟨severity, layer, at_path, field, message⟩ := Finding.mk.inj same
  refine ⟨NodePath.text_injective at_path, ?_⟩
  -- The texts of the schema layer differ in their first letters.
  have first : p.message.toList.head? = kind.name.toList.head? := by
    rw [← head?_message, ← message]
  cases p with
  | danglingReference name' kind' zone' id' =>
    rw [head?_message] at first
    cases Option.some.inj field
    cases EntityKind.head?_name_injective first
    exact ⟨zone', id', rfl⟩
  | unknownEffect id' =>
    have letter : (Problem.unknownEffect id').message.toList.head? = some 'e' := by
      show ("effect id " ++ toString id'.toNat ++ " is not in the registry").toList.head? = _
      simp
    rw [letter] at first
    cases kind <;> exact absurd first (by decide)
  | missingParameter effect name' =>
    have letter : (Problem.missingParameter effect name').message.toList.head? = some 'r' := by
      show ("required parameter of '" ++ effect ++
        "' is missing; the editor default applies").toList.head? = _
      simp
    rw [letter] at first
    cases kind <;> exact absurd first (by decide)
  | invalidParameter => cases severity
  | _ => cases layer

/-- At a node whose two parameters are a zone and a number, an entity of these is not missed. -/
theorem danglingReference_notMem_findings {v : Validator} {d : Document} {path : NodePath}
    {w : StoredNode} (stands : d.walk? path = some (.node w)) {stem : String} {zone id : Int64}
    (atZone : w.params.get? (stem ++ "ZoneId") = some (.int64 zone))
    (atId : w.params.get? (stem ++ "Id") = some (.int64 id)) {kind : EntityKind} {e : Entity}
    (found : v.registry.entity? kind zone id = some e) (zone' id' : Int64) :
    (Problem.danglingReference (stem ++ "Id") kind zone' id').finding path ∉
      (v.validate d).findings := by
  intro mem
  obtain ⟨stop, at_stop, p, raised, same⟩ :=
    exists_stop_of_mem_findings (mem_findings_validate.1 mem) (text_ne_documentPath path)
  obtain ⟨rfl, zone', id', rfl⟩ := of_finding_eq same.symm
  obtain ⟨place, walked, holds⟩ := Document.walk?_of_mem_stops at_stop
  cases stands.symm.trans walked
  obtain ⟨_, earlier, entry⟩ := stop
  cases holds
  have schema := mem_schemaProblems_of_mem_raised raised rfl
  obtain ⟨u, held, missed⟩ := exists_of_danglingReference_mem schema
  cases atId.symm.trans held
  rw [referenceProblem?_pair atZone, found] at missed
  cases missed

end Validator

namespace Registry

/-- Listed references resolve.  What is listed for a kind is the reference to a zone and a number of
which the registry has an entity of this kind.  A reference rule makes these two of the reference,
as signed words, and restores the reference from them.  No validator that consults the registry
reports that the entity of two such parameters is missing. -/
theorem references_resolve (r : Registry) (kind : EntityKind) {value label : String}
    (listed : (value, label) ∈ r.references kind) :
    ∃ zone id : Int64,
      (∃ e, r.entity? kind zone id = some e ∧ e.zoneId = zone ∧ e.id = id) ∧
      (∀ (field zoneKey idKey : String) (fields params : Dict Value), zoneKey ≠ idKey →
        fields.get? field = some (.text value) →
          let rule := FieldRule.reference field zoneKey idKey
          rule.toParams fields params =
              (params.insert zoneKey (.int64 zone)).insert idKey (.int64 id) ∧
            ∀ blank : Dict Value, rule.toFields (rule.toParams fields params) blank =
              ⟨blank.insert field (.text value), [zoneKey, idKey]⟩) ∧
      ∀ (v : Validator) (d : Document) (path : NodePath) (w : StoredNode) (stem : String),
        v.registry = r → d.walk? path = some (.node w) →
          w.params.get? (stem ++ "ZoneId") = some (.int64 zone) →
            w.params.get? (stem ++ "Id") = some (.int64 id) → ∀ zone' id' : Int64,
              (Problem.danglingReference (stem ++ "Id") kind zone' id').finding path ∉
                (v.validate d).findings := by
  obtain ⟨e, mem, eq⟩ := List.mem_map.1 listed
  cases eq
  obtain ⟨found, found_eq, same⟩ := exists_entity? mem
  refine ⟨e.zoneId, e.id, ⟨found, found_eq, same⟩, ?rule, ?validator⟩
  case rule =>
    intro field zoneKey idKey fields params keys_ne held
    have made : (FieldRule.reference field zoneKey idKey).toParams fields params =
        (params.insert zoneKey (.int64 e.zoneId)).insert idKey (.int64 e.id) :=
      FieldRule.toParams_reference held
    refine ⟨made, fun blank => ?_⟩
    rw [made]
    refine FieldRule.toFields_reference ?_ ?_
    · rw [Dict.get?_insert, if_neg (Ne.symm keys_ne), Dict.get?_insert, if_pos rfl]
    · rw [Dict.get?_insert, if_pos rfl]
  case validator =>
    rintro v d path w stem rfl stands atZone atId
    exact Validator.danglingReference_notMem_findings stands atZone atId found_eq

/-- A registry with a summons of a creature, and two wolves of one reference. -/
def twoWolves : Registry where
  snapshot := some {
    effects := [
      ⟨7, "Summon", Dict.ofList [("creatureZoneId", {}),
        ("creatureId", { kind := .reference, reference := some .creature })]⟩]
    creatures := [⟨-3, 12, "Wolf"⟩, ⟨-3, 12, "Old wolf"⟩] }
  sound := by
    rintro s ⟨⟩
    exact Snapshot.fault?_eq_none_iff.1 (by decide)
  placeholderLabel := defaultPlaceholderLabel

/-- A summons of some parameters. -/
def summons (params : Dict Value) : Document := ⟨[⟨some 7, none, params, 0, none, 100⟩]⟩

theorem references_resolve_twoWolves :
    ("-3:12", "-3:12 Old wolf") ∈ twoWolves.references .creature ∧
      ∃ zone id : Int64, (twoWolves.entity? .creature zone id).isSome = true ∧
        ∃ params, (FieldRule.reference "creatureRef" ("creature" ++ "ZoneId")
            ("creature" ++ "Id")).toParams (Dict.insert ∅ "creatureRef" (.text "-3:12")) ∅ =
              params ∧
          (Problem.danglingReference ("creature" ++ "Id") .creature zone id).finding (.top 0) ∉
            (Validator.validate { registry := twoWolves } (summons params)).findings := by
  have listed : ("-3:12", "-3:12 Old wolf") ∈ twoWolves.references .creature := by decide
  obtain ⟨zone, id, ⟨e, found, -⟩, rule, validator⟩ :=
    references_resolve twoWolves .creature listed
  obtain ⟨made, -⟩ := rule "creatureRef" ("creature" ++ "ZoneId") ("creature" ++ "Id")
    (Dict.insert ∅ "creatureRef" (.text "-3:12")) ∅ (by decide) (get?_insert_none_self _ _)
  refine ⟨listed, zone, id, by rw [found]; rfl, _, made, ?_⟩
  refine validator _ _ (.top 0) _ "creature" rfl rfl ?_ ?_ zone id
  · show ((Dict.insert ∅ _ _).insert _ _).get? _ = _
    rw [Dict.get?_insert, if_neg (by decide), get?_insert_none_self]
  · show ((Dict.insert ∅ _ _).insert _ _).get? _ = _
    rw [Dict.get?_insert, if_pos rfl]

end Registry

end EffectFlow
