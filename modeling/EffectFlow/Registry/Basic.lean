import EffectFlow.Json.Fault
import EffectFlow.Registry.Index

/-!
# The registry

A registry is empty until a snapshot is installed, and again after it is cleared.  Only sound
snapshots are installed, so a number or a tag belongs to at most one effect.  The index of the
effects is built anew with each snapshot.  A registry is *ready* once its snapshot has an effect.

`Registry.resolve` takes a block tag to the number of its effect, and `Registry.tag?` goes back.
While a registry is not ready a placeholder label stands for the names of effects.
-/

namespace EffectFlow

/-- Why the data of a registry cannot be had. -/
inductive LoadFault where
  /-- The text cannot be read. -/
  | text (error : Json.ReadError)
  /-- A table cannot be had. -/
  | unavailable (table : String)
  /-- A file cannot be read. -/
  | file (path reason : String)

/-- A load fault in words. -/
def LoadFault.message : LoadFault → String
  | text error => error.message
  | unavailable table => table ++ " unavailable"
  | file path reason => "'" ++ path ++ "': " ++ reason

/-- Why no snapshot is installed. -/
inductive RegistryError where
  /-- The data cannot be had. -/
  | load (fault : LoadFault)
  /-- The snapshot is not sound. -/
  | unsound (fault : SnapshotFault)

/-- A registry error in words. -/
def RegistryError.message : RegistryError → String
  | load fault => "Failed to load registry data: " ++ fault.message
  | unsound (.duplicateId id) => "Effect id " ++ toString id.toNat ++ " is defined more than once"
  | unsound (.duplicateName name) => "Effect name '" ++ name ++ "' is defined more than once"
  | unsound (.invalidId name id) =>
    "Effect '" ++ name ++ "' has invalid id " ++ toString id.toNat ++ "; ids must be positive"

/-- What a block tag stands for. -/
inductive Resolution where
  /-- The effect of a number. -/
  | found (id : UInt32)
  /-- The registry is not ready, and the tag may become known. -/
  | notLoaded
  /-- No effect. -/
  | unknown
deriving DecidableEq

/-- An entry of the palette of effects. -/
structure PaletteEntry where
  /-- The number of the effect. -/
  id : UInt32
  /-- The label. -/
  label : String
  /-- The tag of new blocks. -/
  tag : String
deriving DecidableEq

/-- The number that stands for every effect while the registry is not ready. -/
def placeholderId : UInt32 := 0

/-- The tag of the only palette entry while the registry is not ready. -/
def placeholderTag : String := "effect_not_loaded"

/-- The label of effects while the registry is not ready, if no other is chosen. -/
def defaultPlaceholderLabel : String := "Effects not loaded"

/-- The installed snapshot, if any, with its index, and the placeholder label. -/
structure Registry where
  /-- The installed snapshot. -/
  snapshot : Option Snapshot
  /-- It is sound. -/
  sound : ∀ s ∈ snapshot, s.Sound
  /-- The label of effects while the registry is not ready. -/
  placeholderLabel : String
  /-- The index of the effects. -/
  index : Index := .ofSnapshot snapshot
  /-- It is that of the installed snapshot. -/
  indexed : index = .ofSnapshot snapshot := by rfl

namespace Registry

/-- The registry without a snapshot. -/
def empty : Registry where
  snapshot := none
  sound := by simp
  placeholderLabel := defaultPlaceholderLabel

instance : Inhabited Registry := ⟨empty⟩

/-! ## Changes -/

/-- Chooses the placeholder label. -/
def withLabel (r : Registry) (label : String) : Registry :=
  { r with placeholderLabel := label }

/-- What an attempt at a change leads to.  There is a registry beside an error too: the one that the
attempt leaves. -/
abbrev Outcome := EStateM.Result RegistryError Registry Unit

/-- The registry of an attempt that succeeds. -/
def Outcome.toExcept : Outcome → Except RegistryError Registry
  | .ok _ changed => .ok changed
  | .error e _ => .error e

/-- Installs a snapshot in place of an older one. -/
def install (r : Registry) (s : Snapshot) : Outcome :=
  match h : s.fault? with
  | some fault => .error (.unsound fault) r
  | none =>
    .ok () { r with
      snapshot := some s
      sound := by
        intro t ht
        cases ht
        exact Snapshot.fault?_eq_none_iff.1 h
      index := .ofEffects s.effects
      indexed := rfl }

/-- Takes the snapshot out, and its index. -/
def clear (r : Registry) : Registry :=
  { r with snapshot := none, sound := by simp, index := {}, indexed := rfl }

/-! ## Effects -/

/-- The installed effects. -/
def effects (r : Registry) : List Effect :=
  match r.snapshot with
  | some s => s.effects
  | none => []

/-- Is an effect installed? -/
def isReady (r : Registry) : Bool := !r.effects.isEmpty

/-- The effect of a number. -/
def effect? (r : Registry) (id : UInt32) : Option Effect :=
  (r.index.place? id).bind fun place => r.effects[place]?

/-- The effect of a tag. -/
def effectOfTag? (r : Registry) (tag : String) : Option Effect :=
  (r.index.id? tag).bind r.effect?

/-- The effect of a name, whatever the case of its letters. -/
def effectNamed? (r : Registry) (name : String) : Option Effect :=
  r.effectOfTag? (effectTagStart ++ Text.lowercase name)

/-- What a block tag stands for. -/
def resolve (r : Registry) (tag : String) : Resolution :=
  if r.isReady then
    match r.index.id? tag with
    | some id => .found id
    | none => .unknown
  else .notLoaded

/-- The block tag of a number. -/
def tag? (r : Registry) (id : UInt32) : Option String := r.index.tag? id

/-- The name of an effect, or what stands for it. -/
def label (r : Registry) (id : UInt32) : String :=
  if r.isReady then
    match r.effect? id with
    | some d => d.name
    | none => "Unknown effect #" ++ toString id.toNat
  else r.placeholderLabel

/-- The palette of effects. -/
def palette (r : Registry) : List PaletteEntry :=
  if r.isReady then r.effects.map fun d => ⟨d.id, d.name, d.tag⟩
  else [⟨placeholderId, r.placeholderLabel, placeholderTag⟩]

/-! ## Entities and zones -/

/-- The entities of a kind. -/
def entities (r : Registry) (kind : EntityKind) : List Entity :=
  match r.snapshot with
  | some s => s.entities kind
  | none => []

/-- The entity of a kind with a zone and a number. -/
def entity? (r : Registry) (kind : EntityKind) (zoneId id : Int64) : Option Entity :=
  (r.entities kind).find? fun e => e.zoneId == zoneId && e.id == id

/-- The references to the entities of a kind, each with a label. -/
def references (r : Registry) (kind : EntityKind) : List (String × String) :=
  (r.entities kind).map fun e => (e.reference, e.reference ++ " " ++ e.name)

/-- The zone of a number. -/
def zone? (r : Registry) (id : Int64) : Option Zone :=
  match r.snapshot with
  | some s => s.zones.find? (·.id == id)
  | none => none

end Registry

end EffectFlow
