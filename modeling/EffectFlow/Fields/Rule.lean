import EffectFlow.Fields.Names
import EffectFlow.Text.Blank

/-!
# Field rules

A field rule ties fields of a block to parameters of another form.  `FieldRule.toParams` turns the
fields into parameters, and `FieldRule.toFields` goes back and names the parameters that it used up.

* A *reference* rule has one field with a reference `zone:id` and two parameters for its parts.
* A *pair* rule has two fields and one parameter, an object with both values.
* A *JSON* rule has one field with JSON text and a parameter of the same name with its value.
-/

namespace EffectFlow

open Json (Value Number)

/-- A field of a block and the key of its value inside a parameter. -/
structure PairMember where
  /-- The field. -/
  field : String
  /-- The key. -/
  key : String
deriving DecidableEq

/-- A field rule. -/
inductive FieldRule where
  /-- A reference in one field, and its zone and its number in two parameters. -/
  | reference (field zoneKey idKey : String)
  /-- Two fields, and an object of both in one parameter. -/
  | pair (key : String) (first second : PairMember)
  /-- JSON text in a field, and its value in a parameter. -/
  | json (field : String)
deriving DecidableEq

/-! ## Texts and values -/

/-- Part of a reference: an integer if it spells one, else the text without blanks around it. -/
def referencePart (part : List Char) : Value :=
  let part := Text.trim part
  match (Numeral.signed? part).bind Number.ofInt? with
  | some n => .number n
  | none => .text (String.ofList part)

/-- A text that spells a number becomes the number; any other value stays.  Integers stay exact. -/
def numeric (v : Value) : Value :=
  match v.view with
  | .text s =>
    let text := Text.trim s.toList
    match (Numeral.signed? text).bind Number.ofInt? with
    | some n => .number n
    | none =>
      match Numeral.real? text with
      | some (.finite x) => .number (.float x)
      | _ => v
  | _ => v

/-- The text itself, or the JSON text of any other value. -/
def plainText (v : Value) : String :=
  match v.view with
  | .text s => s
  | _ => v.compact

/-- The text of a field for a value.  A text stands for itself if it is not empty and not JSON.
Anything else is written as JSON, so it is never empty. -/
def jsonFieldText (v : Value) : String :=
  match v.view with
  | .text s => if !s.isEmpty && (Value.ofText? s).isNone then s else v.compact
  | _ => v.compact

/-! ## Rules -/

/-- What comes of parameters: the fields of the block, and the parameters that were used up. -/
structure Restored where
  /-- The fields. -/
  fields : Dict Value
  /-- The parameters that were used up. -/
  used : List String

namespace FieldRule

/-- The block fields of a rule. -/
def blockFields : FieldRule → List String
  | reference field _ _ => [field]
  | pair _ first second => [first.field, second.field]
  | json field => [field]

/-- The parameters of a rule. -/
def paramKeys : FieldRule → List String
  | reference _ zoneKey idKey => [zoneKey, idKey]
  | pair key _ _ => [key]
  | json field => [field]

/-- The parts of a reference: text on both sides of its first colon. -/
def referenceParts? (v : Value) : Option (List Char × List Char) :=
  match v.text? with
  | none => none
  | some s =>
    (Text.cut? (· == ':') s.toList).filter fun (zone, id) =>
      !(Text.trim zone).isEmpty && !(Text.trim id).isEmpty

/-- The object of a pair of fields. -/
def nested (fields : Dict Value) (members : List PairMember) : Dict Value :=
  members.foldl (fun d m =>
    match fields.get? m.field with
    | some v => d.insert m.key (numeric v)
    | none => d) ∅

/-- Turns fields into parameters. -/
def toParams (rule : FieldRule) (fields params : Dict Value) : Dict Value :=
  match rule with
  | reference field zoneKey idKey =>
    match (fields.get? field).bind referenceParts? with
    | some (zone, id) =>
      (params.insert zoneKey (referencePart zone)).insert idKey (referencePart id)
    | none => params
  | pair key first second =>
    let object := nested fields [first, second]
    if object.isEmpty then params else params.insert key (.object object)
  | json field =>
    match fields.get? field with
    | some v =>
      let parsed := (v.text?.bind Value.ofText?).getD v
      params.insert field parsed
    | none => params

/-- Writes the members of an object back to their fields. -/
def spread (object fields : Dict Value) (members : List PairMember) : Dict Value :=
  members.foldl (fun d m =>
    match object.get? m.key with
    | some v => d.insert m.field v
    | none => d) fields

/-- Turns parameters into fields. -/
def toFields (rule : FieldRule) (params fields : Dict Value) : Restored :=
  match rule with
  | reference field zoneKey idKey =>
    match params.get? zoneKey, params.get? idKey with
    | some zone, some id =>
      ⟨fields.insert field (.text (plainText zone ++ ":" ++ plainText id)), [zoneKey, idKey]⟩
    | _, _ => ⟨fields, []⟩
  | pair key first second =>
    match (params.get? key).bind Value.members? with
    | some object => ⟨spread object fields [first, second], [key]⟩
    | none => ⟨fields, []⟩
  | json field =>
    match params.get? field with
    | some v => ⟨fields.insert field (.text (jsonFieldText v)), [field]⟩
    | none => ⟨fields, []⟩

end FieldRule

/-! ## Tables of rules -/

/-- Field rules in order, each with the block tag it is for. -/
structure RuleTable where
  /-- The rules and their tags. -/
  entries : List (String × FieldRule)

namespace RuleTable

/-- No rules. -/
def empty : RuleTable := ⟨[]⟩

/-- The built-in rules. -/
def builtIn : RuleTable := ⟨[
  ("effect_teleport",
    .pair "targetRoom" ⟨"targetRoomZoneId", "zoneId"⟩ ⟨"targetRoomId", "roomId"⟩),
  ("effect_summon", .reference "creatureRef" "creatureZoneId" "creatureId"),
  ("effect_create_item", .reference "itemRef" "itemZoneId" "itemId"),
  ("effect_script", .json "args")]⟩

/-- Adds a rule after the others. -/
def add (table : RuleTable) (tag : String) (rule : FieldRule) : RuleTable :=
  ⟨table.entries ++ [(tag, rule)]⟩

/-- The rules for a tag. -/
def rulesFor (table : RuleTable) (tag : String) : List FieldRule :=
  (table.entries.filter (·.1 == tag)).map Prod.snd

/-- The block fields of the rules for a tag. -/
def blockFields (table : RuleTable) (tag : String) : List String :=
  (table.rulesFor tag).flatMap (·.blockFields)

end RuleTable

end EffectFlow
