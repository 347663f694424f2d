import EffectFlow.Json.Tree
import EffectFlow.Text.Quoted

/-!
# What is wrong with a tree

A `Fault` says why a tree does not have the shape that was asked for, and `Fault.message` puts it
into words.  A `ReadError` is about a whole text.  It has the first fault in the order of the text,
and tells whether the text stands for a value, though one of another shape.
-/

namespace EffectFlow.Json

/-- What stands in the place of something else. -/
inductive Found where
  /-- The word `null`. -/
  | null
  /-- A truth value. -/
  | bool (b : Bool)
  /-- A number. -/
  | number (n : Number)
  /-- A string. -/
  | text (s : String)
  /-- An array. -/
  | sequence
  /-- An object. -/
  | map
deriving DecidableEq

/-- What stands at the root of a tree. -/
def Tree.found : Tree → Found
  | .bool b => .bool b
  | .number n => .number n
  | .text s => .text s
  | .array _ => .sequence
  | .object _ => .map
  | .torn _ => .map
  | _ => .null

/-- A word between backquotes. -/
def ticked (word : String) : String := "`" ++ word ++ "`"

/-- The description of what was found. -/
def Found.description : Found → String
  | null => "null"
  | bool true => "boolean " ++ ticked "true"
  | bool false => "boolean " ++ ticked "false"
  | number (.integer n h) => "integer " ++ ticked (String.ofList (Number.integer n h).text)
  | number (.float x) => "floating point " ++ ticked (String.ofList (Number.float x).text)
  | text s => "string " ++ Text.quoted s
  | sequence => "sequence"
  | map => "map"

/-- Why a tree does not have the shape that was asked for. -/
inductive Fault where
  /-- Another kind of value stands there. -/
  | wrongType (found : Found) (expected : String)
  /-- A number is out of range. -/
  | wrongValue (found : Found) (expected : String)
  /-- A record lacks a field. -/
  | missingField (key : String)
  /-- A field of a record stands twice. -/
  | duplicateField (key : String)
  /-- A word is not one of the words of a choice. -/
  | unknownVariant (word : String) (options : List String)
  /-- An array has too few items. -/
  | wrongLength (length : Nat) (expected : String)
  /-- A text goes on after a value or after the last item of an array. -/
  | trailing
  /-- An array in a value has too many items. -/
  | surplus (length : Nat)
  /-- Neither a word nor an object stands in the place of a choice. -/
  | expectedValue
  /-- The tree is nested too deeply, broken or torn. -/
  | unreadable
deriving DecidableEq

/-- A fault in words. -/
def Fault.message : Fault → String
  | wrongType found expected => "invalid type: " ++ found.description ++ ", expected " ++ expected
  | wrongValue found expected => "invalid value: " ++ found.description ++ ", expected " ++ expected
  | missingField key => "missing field " ++ ticked key
  | duplicateField key => "duplicate field " ++ ticked key
  | unknownVariant word options =>
    "unknown variant " ++ ticked word ++ ", expected one of " ++
      String.intercalate ", " (options.map ticked)
  | wrongLength length expected =>
    "invalid length " ++ toString length ++ ", expected " ++ expected
  | trailing => "trailing characters"
  | surplus length =>
    "invalid length " ++ toString length ++ ", expected fewer elements in array"
  | expectedValue => "expected value"
  | unreadable => "malformed JSON"

/-- Why a text cannot be read. -/
structure ReadError where
  /-- The first fault in the order of the text. -/
  fault : Fault
  /-- Does the text stand for a value? -/
  isValue : Bool
deriving DecidableEq

/-- A read error in words. -/
def ReadError.message (e : ReadError) : String := e.fault.message

end EffectFlow.Json
