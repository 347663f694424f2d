import EffectFlow.Pipeline.Entry

/-!
# Paths of nodes

A path leads from a document to one of its entries: an index at the top level, and then for each
level a branch and an index in it.  Its text is `Effect[2].onPass[0]`.
-/

namespace EffectFlow

/-- The way to an entry of a document. -/
structure NodePath where
  /-- The index at the top level. -/
  index : Nat
  /-- The branches on the way and the indices in them. -/
  steps : List (Branch × Nat)
deriving DecidableEq

namespace NodePath

/-- The way to an entry of the top level. -/
def top (index : Nat) : NodePath := ⟨index, []⟩

/-- The way on to an entry of a branch. -/
def child (path : NodePath) (branch : Branch) (index : Nat) : NodePath :=
  ⟨path.index, path.steps ++ [(branch, index)]⟩

/-- The text of a step. -/
def stepText (step : Branch × Nat) : String :=
  "." ++ step.1.key ++ "[" ++ toString step.2 ++ "]"

/-- The text of a path. -/
def text (path : NodePath) : String :=
  "Effect[" ++ toString path.index ++ "]" ++ String.join (path.steps.map stepText)

end NodePath

namespace Entry

/-- The entries of a branch. -/
def entriesOf : Entry → Branch → List Entry
  | node _ onPass _, .onPass => onPass
  | node _ _ onFail, .onFail => onFail
  | unreadable _, _ => []

/-- The entry at the end of some steps. -/
def follow? (entry : Entry) : List (Branch × Nat) → Option Entry
  | [] => some entry
  | (branch, index) :: rest => (entry.entriesOf branch)[index]?.bind fun next => next.follow? rest

end Entry

/-- The entry at a path. -/
def Document.entry? (d : Document) (path : NodePath) : Option Entry :=
  d.entries[path.index]?.bind fun top => top.follow? path.steps

end EffectFlow
