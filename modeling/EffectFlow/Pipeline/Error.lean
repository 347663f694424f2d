import EffectFlow.Json.Fault
import EffectFlow.Json.Value

/-!
# Errors of documents

A `DocumentError` says why a text is no document, why a node has no type, or why a branch cannot be
read.
-/

namespace EffectFlow

open Json (Value)

/-- Why a branch cannot be read. -/
inductive BranchFault where
  /-- It is no array. -/
  | notAnArray (found : Value)
  /-- One of its entries is no node. -/
  | entry (fault : Json.Fault)
deriving DecidableEq

/-- A branch fault in words. -/
def BranchFault.message : BranchFault → String
  | notAnArray found => "expected an array of nodes, found " ++ found.compact
  | entry fault => fault.message

/-- What is wrong with a document. -/
inductive DocumentError where
  /-- The text cannot be read. -/
  | malformed (error : Json.ReadError)
  /-- A node is neither an effect nor a gate. -/
  | noKind (order : Int64)
  /-- A node is an effect and a gate. -/
  | bothKinds (order effectId : Int64) (gateName : String)
  /-- There is no such gate. -/
  | unknownGate (name : String)
  /-- The number of an effect is not positive, or too large. -/
  | invalidId (id : Int64)
  /-- An order is negative, or too large. -/
  | orderOutOfRange (order : Int64)
  /-- A branch, or an entry of one, cannot be read. -/
  | malformedBranch (place : String) (fault : BranchFault)
deriving DecidableEq

/-- An error in words. -/
def DocumentError.message : DocumentError → String
  | malformed error => "Failed to parse pipeline document JSON: " ++ error.message
  | noKind order =>
    "Node with order " ++ toString order.toInt ++ " has neither an effectId nor a gateType"
  | bothKinds order effectId gateName =>
    "Node with order " ++ toString order.toInt ++ " sets both effectId " ++
      toString effectId.toInt ++ " and gateType '" ++ gateName ++ "'"
  | unknownGate name => "Unknown gate type '" ++ name ++ "'"
  | invalidId id => "Effect id " ++ toString id.toInt ++ " is not a positive integer"
  | orderOutOfRange order =>
    "Order " ++ toString order.toInt ++ " is out of range; orders must be non-negative"
  | malformedBranch place fault => "Branch '" ++ place ++ "' is malformed: " ++ fault.message

end EffectFlow
