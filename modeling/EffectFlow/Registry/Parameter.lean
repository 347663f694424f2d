import EffectFlow.Json.Value
import EffectFlow.Registry.Dice

/-!
# Parameters

A `Parameter` declares what values may be given to an effect under a name: a kind, a range for
numbers, a list of options for texts, and for objects the parameters that are their fields.

`Parameter.fault?` finds the first thing that is wrong with a value, in this order: its kind, its
range, the options, and then the fields in the order of their names.
-/

namespace EffectFlow

open Json (Value Number)

/-- The kinds of parameters. -/
inductive ValueKind where
  /-- Any value. -/
  | any
  /-- A text. -/
  | string
  /-- A number without a fractional part. -/
  | integer
  /-- A number. -/
  | number
  /-- A truth value. -/
  | boolean
  /-- A dice expression or an integer. -/
  | dice
  /-- A text, usually one of the options. -/
  | enum
  /-- An object. -/
  | object
  /-- An array. -/
  | array
  /-- The number of an entity. -/
  | reference
deriving DecidableEq, Repr

/-- The name of a kind. -/
def ValueKind.name : ValueKind → String
  | any => "any"
  | string => "string"
  | integer => "integer"
  | number => "number"
  | boolean => "boolean"
  | dice => "dice"
  | enum => "enum"
  | object => "object"
  | array => "array"
  | reference => "reference"

/-- All kinds, in order. -/
def ValueKind.all : List ValueKind :=
  [any, string, integer, number, boolean, dice, enum, object, array, reference]

/-- The kinds of entities that a parameter may refer to. -/
inductive EntityKind where
  /-- A creature. -/
  | creature
  /-- An item. -/
  | item
  /-- A trigger. -/
  | trigger
deriving DecidableEq, Repr

/-- The name of a kind. -/
def EntityKind.name : EntityKind → String
  | creature => "creature"
  | item => "item"
  | trigger => "trigger"

/-- All kinds, in order. -/
def EntityKind.all : List EntityKind := [creature, item, trigger]

/-- What values a parameter may have. -/
structure Parameter where
  /-- The kind. -/
  kind : ValueKind := .any
  /-- Must the parameter be there? -/
  required : Bool := false
  /-- The value that an editor starts with. -/
  default : Option Value := none
  /-- The least number. -/
  min : Option Binary64 := none
  /-- The largest number. -/
  max : Option Binary64 := none
  /-- The texts to choose from; none for any text. -/
  options : List String := []
  /-- The fields of an object, in the order of their names. -/
  fields : List (String × Parameter) := []
  /-- The entities that the parameter refers to. -/
  reference : Option EntityKind := none

/-- What is wrong with a value. -/
inductive ValueFault where
  /-- The value is of another kind. -/
  | wrongKind (kind : ValueKind) (found : Value)
  /-- The number is too small. -/
  | belowMinimum (found : Value) (min : Binary64)
  /-- The number is too large. -/
  | aboveMaximum (found : Value) (max : Binary64)
  /-- The text is not among the options. -/
  | notAnOption (found : String) (options : List String)
  /-- A field is not there. -/
  | missingField (name : String)
  /-- Something is wrong with a field. -/
  | inField (name : String) (fault : ValueFault)

/-- A fault in words. -/
def ValueFault.message : ValueFault → String
  | wrongKind kind found => "expected " ++ kind.name ++ ", found " ++ found.compact
  | belowMinimum found min =>
    "value " ++ found.compact ++ " is below the minimum " ++
      String.ofList (NumberLayout.bound.text min)
  | aboveMaximum found max =>
    "value " ++ found.compact ++ " is above the maximum " ++
      String.ofList (NumberLayout.bound.text max)
  | notAnOption found options =>
    "'" ++ found ++ "' is not one of [" ++ String.intercalate ", " options ++ "]"
  | missingField name => "missing required field '" ++ name ++ "'"
  | inField name fault => name ++ ": " ++ fault.message

namespace ValueKind

/-- Is the value of the kind? -/
def accepts (kind : ValueKind) (v : Value) : Bool :=
  match kind, v.view with
  | any, _ => true
  | string, .text _ => true
  | enum, .text _ => true
  | integer, .number n => n.isIntegral
  | reference, .number n => n.isIntegral
  | number, .number _ => true
  | boolean, .bool _ => true
  | dice, .text s => isDice s
  | dice, .number n => n.isIntegral
  | object, .object _ => true
  | array, .array _ => true
  | _, _ => false

end ValueKind

namespace Parameter

/-- The fault of a value that is out of range. -/
def rangeFault? (min max : Option Binary64) (v : Value) : Option ValueFault :=
  match v.number? with
  | none => none
  | some n =>
    match min.filter (n.toBinary64.lt ·) with
    | some least => some (.belowMinimum v least)
    | none => (max.filter (·.lt n.toBinary64)).map (.aboveMaximum v ·)

/-- The fault of a text that is not among the options, if there are any. -/
def optionFault? (options : List String) (v : Value) : Option ValueFault :=
  match v.text? with
  | none => none
  | some s => if options.isEmpty || options.contains s then none else some (.notAnOption s options)

/-- The fault of a value, apart from the fields of an object. -/
def localFault? (spec : Parameter) (v : Value) : Option ValueFault :=
  if !spec.kind.accepts v then some (.wrongKind spec.kind v)
  else (rangeFault? spec.min spec.max v).or (optionFault? spec.options v)

mutual

/-- The first fault of a value. -/
def fault? : Parameter → Value → Option ValueFault
  | ⟨kind, required, default, min, max, options, fields, reference⟩, v =>
    (localFault? ⟨kind, required, default, min, max, options, fields, reference⟩ v).or
      (match kind, v.members? with
        | .object, some members => fieldsFault? fields members
        | _, _ => none)
termination_by structural spec => spec

/-- The first fault of the fields of an object. -/
def fieldsFault? : List (String × Parameter) → Dict Value → Option ValueFault
  | [], _ => none
  | (name, spec) :: rest, members =>
    let first : Option ValueFault :=
      match members.get? name with
      | some v => (fault? spec v).map (.inField name ·)
      | none => if spec.required then some (.missingField name) else none
    first.or (fieldsFault? rest members)
termination_by structural fields => fields

end

end Parameter

end EffectFlow
