import EffectFlow.Proofs.Registry.Tags

/-!
# Registries with the same members

Two registries *agree* if they have the same effects and the same entities, in whatever order
(`Registry.Agrees`).  A number or a tag belongs to at most one effect, so what is looked up does not
show the order: registries that agree give the same answers (`Registry.Agrees.effect?_eq` and those
after it).

Snapshots whose tables are the same but for their order are sound together
(`Snapshot.Reordered.sound_iff`), and the registries they are installed in agree
(`Snapshot.Reordered.agrees`).
-/

namespace EffectFlow

/-! ## Lookups -/

namespace Registry

/-- The registries have the same effects and the same entities. -/
structure Agrees (r r' : Registry) : Prop where
  effects : ∀ d, d ∈ r.effects ↔ d ∈ r'.effects
  entities : ∀ kind e, e ∈ r.entities kind ↔ e ∈ r'.entities kind

namespace Agrees

variable {r r' : Registry}

theorem isReady_eq (agrees : r.Agrees r') : r.isReady = r'.isReady := by
  rw [isReady, isReady, Bool.not_inj_iff, Bool.eq_iff_iff, List.isEmpty_iff, List.isEmpty_iff,
    List.eq_nil_iff_forall_not_mem, List.eq_nil_iff_forall_not_mem]
  exact forall_congr' fun d => not_congr (agrees.effects d)

/-- Registries that agree have the same effect of a number. -/
theorem effect?_eq (agrees : r.Agrees r') (id : UInt32) : r.effect? id = r'.effect? id := by
  ext d
  rw [effect?_eq_some_iff, effect?_eq_some_iff, agrees.effects]

theorem effectOfTag?_eq (agrees : r.Agrees r') (tag : String) :
    r.effectOfTag? tag = r'.effectOfTag? tag := by
  ext d
  rw [effectOfTag?_eq_some_iff, effectOfTag?_eq_some_iff,
    agrees.effects]

theorem effectNamed?_eq (agrees : r.Agrees r') (name : String) :
    r.effectNamed? name = r'.effectNamed? name :=
  agrees.effectOfTag?_eq _

/-- Tags stand for the same in both. -/
theorem resolve_eq (agrees : r.Agrees r') (tag : String) : r.resolve tag = r'.resolve tag := by
  rw [Registry.resolve_eq, Registry.resolve_eq, agrees.isReady_eq, agrees.effectOfTag?_eq]

theorem tag?_eq (agrees : r.Agrees r') (id : UInt32) : r.tag? id = r'.tag? id := by
  ext tag
  rw [← resolve_eq_found_iff, ← resolve_eq_found_iff,
    agrees.resolve_eq]

/-- Which entity is found may differ, but not whether one is. -/
theorem isNone_entity?_eq (agrees : r.Agrees r') (kind : EntityKind) (zoneId id : Int64) :
    (r.entity? kind zoneId id).isNone = (r'.entity? kind zoneId id).isNone := by
  rw [Bool.eq_iff_iff, Option.isNone_iff_eq_none, Option.isNone_iff_eq_none, entity?, entity?,
    List.find?_eq_none, List.find?_eq_none]
  exact forall_congr' fun e => imp_congr_left (agrees.entities kind e)

end Agrees

end Registry

/-! ## Reordered snapshots -/

namespace Snapshot

/-- The tables of effects and of entities are the same but for their order. -/
structure Reordered (s s' : Snapshot) : Prop where
  effects : s.effects.Perm s'.effects
  creatures : s.creatures.Perm s'.creatures
  items : s.items.Perm s'.items
  triggers : s.triggers.Perm s'.triggers

namespace Reordered

variable {s s' : Snapshot}

/-- A snapshot is sound in any order of its tables, or in none. -/
theorem sound_iff (reordered : s.Reordered s') : s.Sound ↔ s'.Sound := by
  have sound {t t' : Snapshot} (effects : t.effects.Perm t'.effects) (h : t.Sound) : t'.Sound :=
    ⟨fun d mem => h.id_ne_zero d (effects.mem_iff.2 mem),
      (effects.map _).nodup_iff.1 h.ids_nodup, (effects.map _).nodup_iff.1 h.names_nodup⟩
  exact ⟨sound reordered.effects, sound reordered.effects.symm⟩

/-- Registries with reordered snapshots agree. -/
theorem agrees (reordered : s.Reordered s') {r r' : Registry} (installed : r.snapshot = some s)
    (installed' : r'.snapshot = some s') : r.Agrees r' where
  effects := by
    intro d
    rw [Registry.effects, Registry.effects, installed, installed']
    exact reordered.effects.mem_iff
  entities := by
    intro kind e
    rw [Registry.entities, Registry.entities, installed, installed']
    cases kind with
    | creature => exact reordered.creatures.mem_iff
    | item => exact reordered.items.mem_iff
    | trigger => exact reordered.triggers.mem_iff

end Reordered

end Snapshot

end EffectFlow
