import EffectFlow.Proofs.Registry.Runs
import EffectFlow.Validation.Legacy

/-!
# The audit of the legacy table

The legacy table and a registry both give numbers to names.  The audit goes through the two tables
one after the other: an entry of the legacy table is looked up in the registry, whatever the case of
its letters, and an effect of the registry is looked for among the names of the legacy table.

No name stands twice in a table, so each of the two passes says at most one thing about a name
(`LegacyEntry.filter_filterMap`).  Together they say what tells the two numbers of the name apart
(`Discrepancy.between?`), once and for no other name (`LegacyEntry.audit_exact`).
-/

namespace EffectFlow

/-! ## Names and numbers -/

/-- The name that a discrepancy is about. -/
def Discrepancy.name : Discrepancy → String
  | idMismatch name _ _ => name
  | missingFromRegistry name _ => name
  | missingFromLegacy name _ => name

/-- What tells the number of a name in the legacy table from the one in a registry. -/
def Discrepancy.between? (name : String) : Option UInt32 → Option UInt32 → Option Discrepancy
  | some legacyId, some registryId =>
    if legacyId = registryId then none else some (.idMismatch name legacyId registryId)
  | some legacyId, none => some (.missingFromRegistry name legacyId)
  | none, some registryId => some (.missingFromLegacy name registryId)
  | none, none => none

/-- There is no discrepancy exactly if both sides say the same of a name. -/
theorem Discrepancy.between?_eq_none_iff {name : String} {legacy registry : Option UInt32} :
    between? name legacy registry = none ↔ legacy = registry := by
  cases legacy <;> cases registry <;> simp [between?]

/-- The number of a name in the legacy table. -/
def LegacyEntry.idNamed? (name : String) : Option UInt32 :=
  (table.find? (·.name == name)).map (·.id)

/-- The number of a name in lower case in a registry. -/
def Registry.idNamed? (r : Registry) (name : String) : Option UInt32 :=
  (r.effects.find? (·.lowerName == name)).map (·.id)

/-- A pass over a table in which no name stands twice says of a name what it says of the entry with
that name. -/
theorem LegacyEntry.filter_filterMap {α : Type} {key : α → String} {xs : List α}
    (distinct : (xs.map key).Nodup) {say : α → Option Discrepancy}
    (about : ∀ x d, say x = some d → d.name = key x) (name : String) :
    (xs.filterMap say).filter (·.name == name) =
      ((xs.find? (key · == name)).bind say).toList := by
  have entry (x : α) : (say x).filter (·.name == name) =
      if key x == name then say x else none := by
    cases said : say x with
    | none => simp
    | some d => rw [Option.filter_some, about x d said]
  calc (xs.filterMap say).filter (·.name == name)
      = (xs.filter (key · == name)).filterMap say := by
        simp only [List.filter_filterMap, List.filterMap_filter, entry]
    _ = ((xs.find? (key · == name)).bind say).toList := by
        rw [filter_key_eq distinct]
        cases xs.find? (key · == name) with
        | none => rfl
        | some x => cases said : say x <;> simp [said]

theorem Registry.idNamed?_eq_some_iff {r : Registry} {name : String} {id : UInt32} :
    r.idNamed? name = some id ↔ ∃ d ∈ r.effects, Text.lowercase d.name = name ∧ d.id = id := by
  simp only [idNamed?, Option.map_eq_some_iff, find?_key_eq_some_iff r.effects_sound.2.2,
    and_assoc]
  rfl

namespace LegacyEntry

/-! ## The legacy table -/

theorem names_nodup : (table.map (·.name)).Nodup := by decide

theorem idNamed?_eq_some_iff {name : String} {id : UInt32} :
    idNamed? name = some id ↔ ∃ entry ∈ table, entry.name = name ∧ entry.id = id := by
  simp only [idNamed?, Option.map_eq_some_iff, find?_key_eq_some_iff names_nodup, and_assoc]

/-- The names of the legacy table are in lower case. -/
theorem lowercase_name : ∀ entry ∈ table, Text.lowercase entry.name = entry.name := by decide

/-- A name of the legacy table is found in a registry as it stands. -/
theorem effectNamed?_name (r : Registry) {entry : LegacyEntry} (mem : entry ∈ table) :
    r.effectNamed? entry.name = r.effects.find? (·.lowerName == entry.name) := by
  ext d
  rw [Registry.effectNamed?_eq_some_iff, find?_key_eq_some_iff r.effects_sound.2.2,
    lowercase_name entry mem, Effect.lowerName, eq_comm (a := entry.name)]

/-! ## The two passes -/

theorem name_of_discrepancy? {r : Registry} {entry : LegacyEntry} {d : Discrepancy}
    (found : discrepancy? r entry = some d) : d.name = entry.name := by
  rw [discrepancy?] at found
  split at found
  · split at found
    · cases found
    · cases found; rfl
  · cases found; rfl

theorem name_of_missing? {e : Effect} {d : Discrepancy} (found : missing? e = some d) :
    d.name = e.lowerName := by
  rw [missing?] at found
  split at found
  · cases found
  · cases found; rfl

/-- What the first pass says of a name: how its number in the legacy table differs. -/
theorem filter_discrepancies (r : Registry) (name : String) :
    (table.filterMap (discrepancy? r)).filter (·.name == name) =
      if (idNamed? name).isSome then
        (Discrepancy.between? name (idNamed? name) (r.idNamed? name)).toList
      else [] := by
  rw [filter_filterMap names_nodup (fun _ _ => name_of_discrepancy?), idNamed?]
  cases found : table.find? (·.name == name) with
  | none => rfl
  | some entry =>
    obtain ⟨mem, rfl⟩ := (find?_key_eq_some_iff names_nodup).1 found
    rw [Option.bind_some, discrepancy?, effectNamed?_name r mem, Registry.idNamed?]
    cases r.effects.find? (·.lowerName == entry.name) with
    | none => rfl
    | some d =>
      by_cases same : d.id = entry.id
      · simp [Discrepancy.between?, same]
      · simp [Discrepancy.between?, same, Ne.symm same]

/-- What the second pass says of a name: that the legacy table lacks it. -/
theorem filter_missing (r : Registry) (name : String) :
    (r.effects.filterMap missing?).filter (·.name == name) =
      if (idNamed? name).isSome then []
      else (Discrepancy.between? name (idNamed? name) (r.idNamed? name)).toList := by
  rw [filter_filterMap r.effects_sound.2.2 (fun _ _ => name_of_missing?), Registry.idNamed?]
  cases found : r.effects.find? (·.lowerName == name) with
  | none => cases idNamed? name <;> rfl
  | some d =>
    obtain ⟨-, rfl⟩ := (find?_key_eq_some_iff r.effects_sound.2.2).1 found
    have listed : table.any (·.name == d.lowerName) = (idNamed? d.lowerName).isSome := by
      rw [idNamed?, Option.isSome_map, List.isSome_find?]
    rw [Option.bind_some, missing?, listed]
    cases idNamed? d.lowerName <;> rfl

/-- Of each name the audit says what tells its two numbers apart. -/
theorem filter_audit {r : Registry} (ready : r.isReady = true) (name : String) :
    (audit r).filter (·.name == name) =
      (Discrepancy.between? name (idNamed? name) (r.idNamed? name)).toList := by
  rw [audit, if_pos ready, List.filter_append, filter_discrepancies, filter_missing]
  cases idNamed? name with
  | none => rfl
  | some id => rw [Option.isSome_some, if_pos rfl, if_pos rfl, List.append_nil]

/-- The audit of a ready registry is the exact difference of two maps from names to numbers, that of
the legacy table and that of the registry with its names in lower case.  A name with different
numbers, or with a number on one side only, has one discrepancy, which shows the numbers.  No other
name has any, so there are none exactly if the maps are the same. -/
theorem audit_exact (r : Registry) (ready : r.isReady = true) :
    (∀ name id, idNamed? name = some id ↔ ∃ entry ∈ table, entry.name = name ∧ entry.id = id) ∧
      (∀ name id, r.idNamed? name = some id ↔
        ∃ d ∈ r.effects, Text.lowercase d.name = name ∧ d.id = id) ∧
      (∀ name, (audit r).filter (·.name == name) =
        (Discrepancy.between? name (idNamed? name) (r.idNamed? name)).toList) ∧
      (audit r = [] ↔ ∀ name, idNamed? name = r.idNamed? name) := by
  refine ⟨fun _ _ => idNamed?_eq_some_iff, fun _ _ => Registry.idNamed?_eq_some_iff,
    filter_audit ready, ?_⟩
  have nothing : audit r = [] ↔ ∀ name, (audit r).filter (·.name == name) = [] := by
    constructor
    · intro empty name
      rw [empty, List.filter_nil]
    · intro none
      refine List.eq_nil_iff_forall_not_mem.2 fun d mem => ?_
      exact List.filter_eq_nil_iff.1 (none d.name) d mem (beq_self_eq_true _)
  simp only [nothing, filter_audit ready, Option.toList_eq_nil_iff,
    Discrepancy.between?_eq_none_iff]

/-- A registry that has the healing of the legacy table, another number for its damage, and a script
that it lacks. -/
def drifted : Registry where
  snapshot := some { effects := [⟨102, "HEAL", ∅⟩, ⟨3, "Damage", ∅⟩, ⟨9, "Script", ∅⟩] }
  sound := by
    rintro s ⟨⟩
    exact Snapshot.fault?_eq_none_iff.1 (by decide)
  placeholderLabel := defaultPlaceholderLabel

theorem audit_exact_drifted :
    drifted.isReady = true ∧
      (audit drifted).filter (·.name == "heal") = [] ∧
      (audit drifted).filter (·.name == "damage") = [.idMismatch "damage" 101 3] ∧
      (audit drifted).filter (·.name == "summon") = [.missingFromRegistry "summon" 105] ∧
      (audit drifted).filter (·.name == "script") = [.missingFromLegacy "script" 9] ∧
      audit drifted ≠ [] := by
  have ready : drifted.isReady = true := by decide
  obtain ⟨-, -, differences, none⟩ := audit_exact drifted ready
  refine ⟨ready, ?_, ?_, ?_, ?_, fun empty => ?_⟩
  · rw [differences]; decide
  · rw [differences]; decide
  · rw [differences]; decide
  · rw [differences]; decide
  · exact absurd (none.1 empty "damage") (by decide)

end LegacyEntry

end EffectFlow
