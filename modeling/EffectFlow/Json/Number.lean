import EffectFlow.Numeric.Numeral
import EffectFlow.Numeric.Shortest

/-!
# Numbers in JSON

A number is an integer of 64 bits, signed or unsigned, or a double.  The two kinds stay apart: `1`
and `1.0` are different numbers.

A token without point and exponent is an integer if it fits, and anything else is a double.  The
digits of a double are gathered into a significand of 64 bits (`Significand.absorb`).  The
significand is rounded to a double and then scaled by a rounded power of ten (`Number.scale?`).  So
a token of many digits may miss the nearest double by a little.
-/

namespace EffectFlow.Json

/-- The largest 64-bit natural number. -/
def maxUnsigned64 : Nat := 0xFFFFFFFFFFFFFFFF

/-- Does an integer fit into 64 bits, signed or unsigned? -/
def FitsWord (n : Int) : Prop := minSigned64 ≤ n ∧ n ≤ maxUnsigned64

instance (n : Int) : Decidable (FitsWord n) := inferInstanceAs (Decidable (_ ∧ _))

/-- A number. -/
inductive Number where
  /-- An integer of 64 bits. -/
  | integer (n : Int) (fits : FitsWord n)
  /-- A double. -/
  | float (x : Binary64)
deriving DecidableEq

/-- A token by its parts: the sign, the digits before the point, those after it, and the exponent
with its sign. -/
structure NumberToken where
  /-- Is there a minus? -/
  negative : Bool
  /-- The digits before the point. -/
  whole : List Char
  /-- The digits after the point, if there is one. -/
  fraction : Option (List Char)
  /-- Is the exponent negative, and its digits. -/
  exponent : Option (Bool × List Char)
deriving DecidableEq

namespace Number

instance : Inhabited Number := ⟨integer 0 (by decide)⟩

/-- A natural number below `2 ^ 64`. -/
def ofNat (n : Nat) (h : n ≤ maxUnsigned64) : Number :=
  integer n ⟨Int.le_trans (by decide) (Int.natCast_nonneg n), Int.ofNat_le.2 h⟩

/-- An integer, if it fits. -/
def ofInt? (n : Int) : Option Number :=
  if h : FitsWord n then some (integer n h) else none

/-- A signed word. -/
def ofInt64 (n : Int64) : Number :=
  integer n.toInt ⟨n.le_toInt, Int.le_trans (Int.le_of_lt n.toInt_lt) (by decide)⟩

/-! ## Reading -/

/-- Digits gathered so far. -/
structure Significand where
  /-- The number they form. -/
  value : Nat
  /-- How many digits were taken. -/
  taken : Nat
  /-- How many digits were left over, the first that did not fit and all after it. -/
  left : Nat

/-- Takes digits as long as the number stays within 64 bits. -/
def Significand.absorb (value taken : Nat) : List Char → Significand
  | [] => ⟨value, taken, 0⟩
  | c :: rest =>
    let next := 10 * value + Numeral.digitValue c
    if next ≤ maxUnsigned64 then absorb next (taken + 1) rest
    else ⟨value, taken, rest.length + 1⟩

/-- The largest power of ten that a double is scaled by in one step. -/
def maxPower : Nat := 308

/-- The double nearest to a power of ten. -/
def powerOfTen (power : Nat) : Binary64 := Binary64.ofNat (tenTo power)

/-- A nonnegative double divided by the largest power of ten, again and again until it is zero. -/
def shrink? (x : Binary64) : Nat → Option Binary64
  | 0 => some x
  | times + 1 =>
    if x.isZero then some x
    else (x.div? (powerOfTen maxPower)).bind fun y => shrink? y times

/-- A nonnegative double times a power of ten, rounded at each step.  There is none if the result
is too large. -/
def scale? (x : Binary64) (power : Int) : Option Binary64 :=
  if 0 ≤ power then
    if power.natAbs ≤ maxPower then x.mul? (powerOfTen power.natAbs)
    else if x.isZero then some x
    else none
  else
    let times := (power.natAbs - 1) / maxPower
    (shrink? x times).bind fun y => y.div? (powerOfTen (power.natAbs - times * maxPower))

/-- A significand scaled by a power of ten, with a sign. -/
def float? (negative : Bool) (significand : Nat) (power : Int) : Option Number :=
  (scale? (Binary64.ofNat significand) power).map fun x => float (if negative then -x else x)

/-- The largest exponent that is computed with. -/
def maxExponent : Int := 0x7FFFFFFF

/-- The least exponent that is computed with. -/
def minExponent : Int := -0x80000000

/-- A significand scaled by a power of ten and by an exponent.  Sums of powers stop at the ends of
the range of exponents.  An exponent beyond the range gives zero, or nothing if it is positive and
the significand is not zero. -/
def floatWithExponent? (negative : Bool) (significand : Nat) (power : Int) :
    Option (Bool × List Char) → Option Number
  | none => float? negative significand power
  | some (down, digits) =>
    let e : Int := Numeral.ofDigits 0 digits
    if maxExponent < e then
      if significand ≠ 0 && !down then none else some (float (.zero negative))
    else
      let sum := if down then power - e else power + e
      float? negative significand (max minExponent (min maxExponent sum))

/-- The integer of a token without point and exponent.  Minus zero and integers that do not fit are
doubles. -/
def ofWhole (negative : Bool) (n : Nat) : Number :=
  if negative then
    if n = 0 then float (.zero true)
    else
      match ofInt? (-(n : Int)) with
      | some x => x
      | none => float (-(Binary64.ofNat n))
  else
    match ofInt? n with
    | some x => x
    | none => float (Binary64.ofNat n)

/-- The number of a token.  There is none if it is too large for a double. -/
def ofToken? (token : NumberToken) : Option Number :=
  let whole := Significand.absorb 0 0 token.whole
  match token.fraction, token.exponent with
  | none, none =>
    if whole.left = 0 then some (ofWhole token.negative whole.value)
    else float? token.negative whole.value whole.left
  | none, exponent =>
    floatWithExponent? token.negative whole.value whole.left exponent
  | some digits, exponent =>
    let all := Significand.absorb whole.value 0 digits
    floatWithExponent? token.negative all.value ((whole.left : Int) - all.taken) exponent

/-! ## Writing -/

/-- The text of a number. -/
def text : Number → List Char
  | integer n _ => (if n < 0 then ['-'] else []) ++ decimalDigits n.natAbs
  | float x => NumberLayout.json.text x

/-! ## Values -/

/-- The double nearest to a number. -/
def toBinary64 : Number → Binary64
  | integer n _ => (Binary64.ofInt? n).getD default
  | float x => x

/-- The integer of a number that is one, if it is in the range of signed words. -/
def signed? : Number → Option Int
  | integer n _ => if n ≤ maxSigned64 then some n else none
  | float _ => none

/-- Does the number have no fractional part? -/
def isIntegral : Number → Bool
  | integer _ _ => true
  | float x => x.isIntegral

end Number

end EffectFlow.Json
