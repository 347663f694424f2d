import EffectFlow.Registry.Basic

/-!
# The legacy table

A fixed table of effects from before the registry, with numbers of its own and the parameters that
each effect needs.  `LegacyEntry.audit` compares it with a registry by the names of the effects.
-/

namespace EffectFlow

/-- An effect of the legacy table. -/
structure LegacyEntry where
  /-- The number. -/
  id : UInt32
  /-- The name. -/
  name : String
  /-- The parameters that the effect needs. -/
  required : List String
deriving DecidableEq

/-- A difference between the legacy table and a registry. -/
inductive Discrepancy where
  /-- The numbers of an effect differ. -/
  | idMismatch (name : String) (legacyId registryId : UInt32)
  /-- The registry lacks an effect. -/
  | missingFromRegistry (name : String) (legacyId : UInt32)
  /-- The legacy table lacks an effect. -/
  | missingFromLegacy (name : String) (registryId : UInt32)
deriving DecidableEq

/-- A discrepancy in words. -/
def Discrepancy.text : Discrepancy → String
  | idMismatch name legacyId registryId =>
    "'" ++ name ++ "' is #" ++ toString legacyId.toNat ++ " in the legacy table but #" ++
      toString registryId.toNat ++ " in the registry"
  | missingFromRegistry name legacyId =>
    "legacy #" ++ toString legacyId.toNat ++ " '" ++ name ++ "' has no registry definition"
  | missingFromLegacy name registryId =>
    "registry #" ++ toString registryId.toNat ++ " '" ++ name ++ "' has no legacy schema"

/-- Discrepancies in words, one a line. -/
def Discrepancy.list (found : List Discrepancy) : String :=
  if found.isEmpty then "legacy table agrees with the registry"
  else String.intercalate "\n" (found.map fun d => "- " ++ d.text)

namespace LegacyEntry

/-- The legacy table. -/
def table : List LegacyEntry := [
  ⟨101, "damage", ["amount", "damageType"]⟩,
  ⟨102, "heal", ["amount", "resource"]⟩,
  ⟨103, "apply_status", ["status"]⟩,
  ⟨104, "teleport", ["targetRoom"]⟩,
  ⟨105, "summon", ["creatureZoneId", "creatureId"]⟩]

/-- The entry of a number. -/
def ofId? (id : UInt32) : Option LegacyEntry := table.find? (·.id == id)

/-- The discrepancy of an entry. -/
def discrepancy? (registry : Registry) (entry : LegacyEntry) : Option Discrepancy :=
  match registry.effectNamed? entry.name with
  | some d => if d.id = entry.id then none else some (.idMismatch entry.name entry.id d.id)
  | none => some (.missingFromRegistry entry.name entry.id)

/-- The discrepancy of an effect of the registry that the table lacks. -/
def missing? (d : Effect) : Option Discrepancy :=
  if table.any (·.name == d.lowerName) then none
  else some (.missingFromLegacy d.lowerName d.id)

/-- All differences between the table and a registry: those of the entries in order, and then the
effects that the table lacks.  There are none while the registry is not ready. -/
def audit (registry : Registry) : List Discrepancy :=
  if registry.isReady then
    table.filterMap (discrepancy? registry) ++ registry.effects.filterMap missing?
  else []

end LegacyEntry

end EffectFlow
