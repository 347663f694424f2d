import EffectFlow.Json.Record
import EffectFlow.Registry.Basic

/-!
# Snapshots as JSON

`Snapshot.ofText` reads a snapshot.  All tables of a snapshot and all parts of a parameter
may be left out.  `Snapshot.toTree` writes everything, and `null` for what is absent.
-/

namespace EffectFlow

open Json (Tree Reader Shape Field)

/-! ## Reading -/

/-- The shape of a parameter, given a reader for its fields. -/
def Parameter.shape (nested : Reader Parameter) : Shape Parameter where
  name := "ParamSpec"
  blank := {}
  fields := [
    .of "type" false (.choice (ValueKind.all.map fun k => (k.name, k))) fun x r =>
      { r with kind := x },
    .of "required" false .bool fun x r => { r with required := x },
    .of "default" false (.optional .value) fun x r => { r with default := x },
    .of "min" false (.optional .float) fun x r => { r with min := x },
    .of "max" false (.optional .float) fun x r => { r with max := x },
    .of "options" false (.list .text) fun x r => { r with options := x },
    .of "fields" false (.dict nested) fun x r => { r with fields := x.entries },
    .of "reference" false (.optional (.choice (EntityKind.all.map fun k => (k.name, k)))) fun x r =>
      { r with reference := x }]

/-- Reads a parameter.  Each level of fields takes two containers. -/
def Parameter.read : Reader Parameter
  | room + 2, t => (shape fun _ u => Parameter.read room u).read .text (room + 2) t
  | room, t => (shape fun _ _ => .error .unreadable).read .text room t

/-- The shape of an effect. -/
def Effect.shape : Shape Effect where
  name := "EffectDefinition"
  blank := ⟨0, "", ∅⟩
  fields := [
    .of "id" true .uint32 fun x r => { r with id := x },
    .of "name" true .text fun x r => { r with name := x },
    .of "parameterSchema" false (.dict Parameter.read) fun x r => { r with parameters := x }]

/-- The shape of an entity. -/
def Entity.shape : Shape Entity where
  name := "ReferenceEntity"
  blank := ⟨0, 0, ""⟩
  fields := [
    .of "zoneId" true .int64 fun x r => { r with zoneId := x },
    .of "id" true .int64 fun x r => { r with id := x },
    .of "name" true .text fun x r => { r with name := x }]

/-- The shape of a zone. -/
def Zone.shape : Shape Zone where
  name := "Zone"
  blank := ⟨0, ""⟩
  fields := [
    .of "id" true .int64 fun x r => { r with id := x },
    .of "name" true .text fun x r => { r with name := x }]

/-- The shape of a snapshot. -/
def Snapshot.shape : Shape Snapshot where
  name := "RegistrySnapshot"
  blank := {}
  fields := [
    .of "effects" false (.list (Effect.shape.read .text)) fun x r =>
      { r with effects := x },
    .of "creatures" false (.list (Entity.shape.read .text)) fun x r => { r with creatures := x },
    .of "items" false (.list (Entity.shape.read .text)) fun x r => { r with items := x },
    .of "triggers" false (.list (Entity.shape.read .text)) fun x r => { r with triggers := x },
    .of "zones" false (.list (Zone.shape.read .text)) fun x r => { r with zones := x }]

/-- Reads a snapshot from a text. -/
def Snapshot.ofText (text : String) : Except RegistryError Snapshot :=
  (Reader.ofText (shape.read .text) text).mapError fun error => .load (.text error)

/-- Reads a parameter from a text. -/
def Parameter.ofText (text : String) : Except Json.ReadError Parameter :=
  Reader.ofText Parameter.read text

/-! ## Writing -/

mutual

/-- The tree of a parameter. -/
def Parameter.toTree : Parameter → Tree
  | ⟨kind, required, default, min, max, options, fields, reference⟩ => .object [
    ("type", .text kind.name),
    ("required", .bool required),
    ("default", .ofOption (·.tree) default),
    ("min", .ofOption .float min),
    ("max", .ofOption .float max),
    ("options", .array (options.map .text)),
    ("fields", .object (Parameter.toTrees fields)),
    ("reference", .ofOption (fun k => .text k.name) reference)]
termination_by structural spec => spec

/-- The trees of the fields of a parameter. -/
def Parameter.toTrees : List (String × Parameter) → List (String × Tree)
  | [] => []
  | (name, spec) :: rest => (name, spec.toTree) :: Parameter.toTrees rest
termination_by structural fields => fields

end

/-- The tree of an effect. -/
def Effect.toTree (d : Effect) : Tree := .object [
  ("id", .uint32 d.id),
  ("name", .text d.name),
  ("parameterSchema", .object (Parameter.toTrees d.parameters.entries))]

/-- The tree of an entity. -/
def Entity.toTree (e : Entity) : Tree := .object [
  ("zoneId", .int64 e.zoneId),
  ("id", .int64 e.id),
  ("name", .text e.name)]

/-- The tree of a zone. -/
def Zone.toTree (z : Zone) : Tree := .object [("id", .int64 z.id), ("name", .text z.name)]

/-- The tree of a snapshot. -/
def Snapshot.toTree (s : Snapshot) : Tree := .object [
  ("effects", .array (s.effects.map (·.toTree))),
  ("creatures", .array (s.creatures.map (·.toTree))),
  ("items", .array (s.items.map (·.toTree))),
  ("triggers", .array (s.triggers.map (·.toTree))),
  ("zones", .array (s.zones.map (·.toTree)))]

end EffectFlow
