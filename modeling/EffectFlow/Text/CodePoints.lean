/-!
# Sets of code points

A set of code points is written as its *boundaries*: an ascending list of the code points at which
membership changes.  The first boundary is the first member.  So `[65, 91, 97, 123]` is the set of
ASCII letters.
-/

namespace EffectFlow.Text

/-- A set of code points, by its boundaries. -/
structure CodePoints where
  /-- The code points at which membership changes, ascending. -/
  boundaries : List Nat

/-- Is an odd number of boundaries at or below the code point? -/
def CodePoints.contains (s : CodePoints) (c : Char) : Bool :=
  (s.boundaries.takeWhile (· ≤ c.toNat)).length % 2 == 1

end EffectFlow.Text
