import EffectFlow.Registry.Parameter
import EffectFlow.Text.Lowercase

/-!
# Registry snapshots

A snapshot holds the catalogue of effects and the tables of creatures, items, triggers and zones.

A snapshot is *sound* if every effect has a positive number, no two have one number, and no two have
one name, whatever the case of its letters.  `Snapshot.fault?` finds the first effect that breaks
this, and there is none exactly if the snapshot is sound (`Snapshot.fault?_eq_none_iff`).
-/

namespace EffectFlow

/-- The start of every effect tag. -/
def effectTagStart : String := "effect_"

/-- An effect of the catalogue. -/
structure Effect where
  /-- The number. -/
  id : UInt32
  /-- The name. -/
  name : String
  /-- The parameters by name. -/
  parameters : Dict Parameter

/-- The name in lower case. -/
def Effect.lowerName (d : Effect) : String := Text.lowercase d.name

/-- The tag of the blocks of an effect. -/
def Effect.tag (d : Effect) : String := effectTagStart ++ d.lowerName

/-- A creature, an item or a trigger. -/
structure Entity where
  /-- The zone it belongs to. -/
  zoneId : Int64
  /-- The number inside the zone. -/
  id : Int64
  /-- The name. -/
  name : String
deriving DecidableEq

/-- The reference to an entity: its zone, a colon and its number. -/
def Entity.reference (e : Entity) : String :=
  toString e.zoneId.toInt ++ ":" ++ toString e.id.toInt

/-- A zone. -/
structure Zone where
  /-- The number. -/
  id : Int64
  /-- The name. -/
  name : String
deriving DecidableEq

/-- The tables of a registry. -/
structure Snapshot where
  /-- The catalogue of effects. -/
  effects : List Effect := []
  /-- The creatures. -/
  creatures : List Entity := []
  /-- The items. -/
  items : List Entity := []
  /-- The triggers. -/
  triggers : List Entity := []
  /-- The zones. -/
  zones : List Zone := []

/-- What makes a snapshot unsound. -/
inductive SnapshotFault where
  /-- The number of an effect is not positive. -/
  | invalidId (name : String) (id : UInt32)
  /-- Two effects have one number. -/
  | duplicateId (id : UInt32)
  /-- Two effects have one name. -/
  | duplicateName (name : String)
deriving DecidableEq

namespace Snapshot

/-- The entities of a kind. -/
def entities (s : Snapshot) : EntityKind → List Entity
  | .creature => s.creatures
  | .item => s.items
  | .trigger => s.triggers

/-- Are the numbers of the effects positive and distinct, and the names distinct in lower case? -/
structure Sound (s : Snapshot) : Prop where
  /-- The numbers are positive. -/
  id_ne_zero : ∀ d ∈ s.effects, d.id ≠ 0
  /-- The numbers are distinct. -/
  ids_nodup : (s.effects.map (·.id)).Nodup
  /-- The names are distinct. -/
  names_nodup : (s.effects.map (·.lowerName)).Nodup

/-- The first fault of a list of effects, given the numbers and names that came before. -/
def faultAfter? (ids : List UInt32) (names : List String) : List Effect → Option SnapshotFault
  | [] => none
  | d :: rest =>
    if d.id = 0 then some (.invalidId d.name d.id)
    else if d.id ∈ ids then some (.duplicateId d.id)
    else if d.lowerName ∈ names then some (.duplicateName d.name)
    else faultAfter? (d.id :: ids) (d.lowerName :: names) rest

/-- The first fault of a snapshot. -/
def fault? (s : Snapshot) : Option SnapshotFault := faultAfter? [] [] s.effects

/-- The check goes on without a fault exactly if the numbers are positive and neither numbers nor
names repeat, those before among them. -/
theorem faultAfter?_eq_none_iff {ids : List UInt32} {names : List String}
    {effects : List Effect} :
    faultAfter? ids names effects = none ↔
      (∀ d ∈ effects, d.id ≠ 0 ∧ d.id ∉ ids ∧ d.lowerName ∉ names) ∧
        (effects.map (·.id)).Nodup ∧ (effects.map (·.lowerName)).Nodup := by
  induction effects generalizing ids names with
  | nil => simp [faultAfter?]
  | cons d rest ih =>
    simp only [faultAfter?]
    split
    · next h => simp [h]
    · split
      · next h => simp [h]
      · split
        · next h => simp [h]
        · simp only [ih, List.mem_cons, List.map_cons, List.nodup_cons, List.mem_map]
          grind

/-- The check finds no fault exactly if the snapshot is sound. -/
theorem fault?_eq_none_iff {s : Snapshot} : s.fault? = none ↔ s.Sound := by
  rw [fault?, faultAfter?_eq_none_iff]
  constructor
  · intro h
    exact ⟨fun d hd => (h.1 d hd).1, h.2.1, h.2.2⟩
  · intro h
    exact ⟨fun d hd => ⟨h.id_ne_zero d hd, by simp, by simp⟩, h.ids_nodup, h.names_nodup⟩

end Snapshot

end EffectFlow
