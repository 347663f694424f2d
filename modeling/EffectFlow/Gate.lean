/-!
# Gates

A gate is a condition with two branches.  Each kind has a name in documents, and the tag of its
blocks is the name after `gate_`.  Every kind has a fixed list of fields.
-/

namespace EffectFlow

/-- The kinds of gates. -/
inductive GateKind where
  /-- Compares an attribute with a value. -/
  | check
  /-- Passes with a percentage. -/
  | chance
  /-- A saving throw against a difficulty. -/
  | savingThrow
  /-- An attack roll. -/
  | attackRoll
  /-- A contest of two stats. -/
  | contest
deriving DecidableEq, Repr

/-- The start of every gate tag. -/
def gateTagStart : String := "gate_"

namespace GateKind

/-- All kinds, in order. -/
def all : List GateKind := [check, chance, savingThrow, attackRoll, contest]

/-- The name in documents. -/
def name : GateKind → String
  | check => "check"
  | chance => "chance"
  | savingThrow => "saving_throw"
  | attackRoll => "attack_roll"
  | contest => "contest"

/-- The tag of the blocks. -/
def tag (gate : GateKind) : String := gateTagStart ++ gate.name

/-- The kind of a name. -/
def ofName? (name : String) : Option GateKind := all.find? (·.name == name)

/-- The kind of a block tag. -/
def ofTag? (tag : String) : Option GateKind := all.find? (·.tag == tag)

/-- The fields of a gate. -/
def fields : GateKind → List String
  | check => ["attribute", "comparison", "value"]
  | chance => ["percentage"]
  | savingThrow => ["saveType", "dc"]
  | attackRoll => ["attackBonus", "versus"]
  | contest => ["attackerStat", "defenderStat"]

theorem ofName?_name (gate : GateKind) : ofName? gate.name = some gate := by
  cases gate <;> decide

theorem ofTag?_tag (gate : GateKind) : ofTag? gate.tag = some gate := by
  cases gate <;> decide

theorem ofTag?_eq_some_iff {tag : String} {gate : GateKind} :
    ofTag? tag = some gate ↔ gate.tag = tag :=
  ⟨fun h => by simpa using List.find?_some h, fun h => h ▸ ofTag?_tag gate⟩

end GateKind

end EffectFlow
