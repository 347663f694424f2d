import EffectFlow.Numeric.Numeral
import EffectFlow.Text.Blank
import EffectFlow.Text.Cut

/-!
# Dice expressions

A dice expression is an integer, or a number of dice, the letter `d`, a number of sides and perhaps
a number to add or subtract: `2d6`, `d8`, `1d20+3`.  Blanks around it do not matter, and the number
of dice may be left off.
-/

namespace EffectFlow

/-- Is the letter the one between dice and sides? -/
def isDieLetter (c : Char) : Bool := c == 'd' || c == 'D'

/-- Is the character a sign? -/
def isSign (c : Char) : Bool := c == '+' || c == '-'

/-- Is the text a positive number of sides? -/
def isSides (text : List Char) : Bool :=
  match Numeral.unsigned? text with
  | some n => 0 < n
  | none => false

/-- Is the text a number of sides, and after its first sign a number to add or subtract? -/
def isSidesAndModifier (text : List Char) : Bool :=
  match Text.cut? isSign text with
  | some (sides, modifier) => isSides sides && (Numeral.unsigned? modifier).isSome
  | none => isSides text

/-- Is the text a dice expression? -/
def isDice (text : String) : Bool :=
  let text := Text.trim text.toList
  (Numeral.signed? text).isSome ||
    match Text.cut? isDieLetter text with
    | some (count, rest) =>
      (count.isEmpty || (Numeral.unsigned? count).isSome) && isSidesAndModifier rest
    | none => false

end EffectFlow
