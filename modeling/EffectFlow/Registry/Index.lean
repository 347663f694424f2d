import EffectFlow.Registry.Snapshot

/-!
# The index of a registry

A registry finds its effects through three tables: the tags by number, the numbers by tag, and the
places in the catalogue by number.  One pass over the effects fills all three.  An entry goes before
the older ones, so the newest entry of a key is found.
-/

namespace EffectFlow

/-- The tables for finding effects. -/
structure Index where
  /-- The tags by number. -/
  tags : List (UInt32 × String) := []
  /-- The numbers by tag. -/
  ids : List (String × UInt32) := []
  /-- The places in the catalogue by number. -/
  places : List (UInt32 × Nat) := []

namespace Index

/-- Adds the effect that stands in a place. -/
def add (index : Index) (place : Nat) (d : Effect) : Index where
  tags := (d.id, d.tag) :: index.tags
  ids := (d.tag, d.id) :: index.ids
  places := (d.id, place) :: index.places

/-- Adds the effects that stand from a place on. -/
def addAll (index : Index) (place : Nat) : List Effect → Index
  | [] => index
  | d :: rest => addAll (index.add place d) (place + 1) rest

/-- The index of some effects. -/
def ofEffects (effects : List Effect) : Index := addAll {} 0 effects

/-- The index of the effects of a snapshot, if there is one. -/
def ofSnapshot : Option Snapshot → Index
  | some s => ofEffects s.effects
  | none => {}

/-- The tag of a number. -/
def tag? (index : Index) (id : UInt32) : Option String := index.tags.lookup id

/-- The number of a tag. -/
def id? (index : Index) (tag : String) : Option UInt32 := index.ids.lookup tag

/-- The place of a number. -/
def place? (index : Index) (id : UInt32) : Option Nat := index.places.lookup id

end Index

end EffectFlow
