import EffectFlow.Registry.Basic

/-!
# Sources of registry data

A source answers for each table on its own, and any of its answers may be an error.  A source is
installed in one step: the tables are asked for in a fixed order, the first error ends it, and
otherwise all of them are installed together.
-/

namespace EffectFlow

/-- Where the tables of a registry come from. -/
structure Source where
  /-- The catalogue of effects. -/
  effects : Except RegistryError (List Effect)
  /-- The entities of a kind. -/
  entities : EntityKind → Except RegistryError (List Entity)
  /-- The zones. -/
  zones : Except RegistryError (List Zone)

namespace Source

/-- The tables of a snapshot. -/
def ofSnapshot (s : Snapshot) : Source where
  effects := .ok s.effects
  entities kind := .ok (s.entities kind)
  zones := .ok s.zones

/-- The tables of a snapshot, but for the one with a given name. -/
def ofSnapshotWithout (s : Snapshot) (table : String) : Source :=
  let answer {α : Type} (name : String) (rows : List α) : Except RegistryError (List α) :=
    if name = table then .error (.load (.unavailable name)) else .ok rows
  { effects := answer "effects" s.effects
    entities := fun kind => answer kind.name (s.entities kind)
    zones := answer "zones" s.zones }

/-- All tables, or the first error. -/
def snapshot (source : Source) : Except RegistryError Snapshot := do
  let effects ← source.effects
  let creatures ← source.entities .creature
  let items ← source.entities .item
  let triggers ← source.entities .trigger
  let zones ← source.zones
  .ok { effects, creatures, items, triggers, zones }

end Source

/-- Installs the tables of a source. -/
def Registry.installFrom (r : Registry) (source : Source) : Registry.Outcome :=
  match source.snapshot with
  | .error e => .error e r
  | .ok s => r.install s

end EffectFlow
