/-!
# Binary floating-point numbers

A `Binary64` is a finite double: a sign, a significand below `2^53` and an exponent, in the one
canonical form of each value.  The two zeros differ in their sign.

Everything here is exact arithmetic on natural numbers.  `Binary64.ofRatio?` rounds a fraction to
the nearest double, a tie to the even significand, and products and quotients are the rounded
fractions of their operands.  A fraction that rounds beyond the largest double has no result.
-/

namespace EffectFlow

/-- The quotient nearest to `num / den`; a tie goes to the even one. -/
def roundHalfEven (num den : Nat) : Nat :=
  let q := num / den
  let r := num % den
  if 2 * r < den then q
  else if den < 2 * r then q + 1
  else if q % 2 = 0 then q else q + 1

/-- A power of two. -/
def twoTo (power : Nat) : Nat := Nat.pow 2 power

/-- A power of ten. -/
def tenTo (power : Nat) : Nat := Nat.pow 10 power

/-- The least number of 53 bits. -/
def leadingBit : Nat := 0x10000000000000

/-- A significand and an exponent in canonical form: 53 significant bits, or fewer at the least
exponent. -/
def IsCanonical (significand : Nat) (exponent : Int) : Prop :=
  (leadingBit ≤ significand ∧ significand < 2 * leadingBit ∧ -1074 ≤ exponent ∧ exponent ≤ 971) ∨
    (significand < leadingBit ∧ exponent = -1074)

instance (significand : Nat) (exponent : Int) : Decidable (IsCanonical significand exponent) :=
  inferInstanceAs (Decidable (_ ∨ _))

/-- A finite double, `± significand · 2 ^ exponent`. -/
structure Binary64 where
  /-- Is the sign a minus? -/
  negative : Bool
  /-- The significand. -/
  significand : Nat
  /-- The exponent of two. -/
  exponent : Int
  /-- The form is the canonical one. -/
  canonical : IsCanonical significand exponent
deriving DecidableEq

namespace Binary64

/-- Zero with a sign. -/
def zero (negative : Bool) : Binary64 := ⟨negative, 0, -1074, by decide⟩

instance : Inhabited Binary64 := ⟨zero false⟩

/-- The nonnegative fraction of the absolute value. -/
def numerator (x : Binary64) : Nat :=
  if 0 ≤ x.exponent then x.significand * twoTo x.exponent.toNat else x.significand

/-- The denominator of the absolute value, a power of two. -/
def denominator (x : Binary64) : Nat :=
  if 0 ≤ x.exponent then 1 else twoTo (-x.exponent).toNat

/-- The numerator with the sign of the number. -/
def signedNumerator (x : Binary64) : Int :=
  if x.negative then -(x.numerator : Int) else x.numerator

/-! ## Rounding -/

/-- The exponent at which `num / den` has 53 significant bits, and no less than the least one. -/
def exponentFor (num den : Nat) : Int :=
  let guess : Int := (num.log2 : Int) - den.log2 - 52
  let enough :=
    if 0 ≤ guess then den * twoTo guess.toNat * leadingBit ≤ num
    else den * leadingBit ≤ num * twoTo (-guess).toNat
  max (-1074) (if enough then guess else guess - 1)

/-- The double nearest to `num / den`; a tie goes to the even significand.  There is none when the
fraction is too large. -/
def ofRatio? (negative : Bool) (num den : Nat) : Option Binary64 :=
  let e := exponentFor num den
  let q :=
    if 0 ≤ e then roundHalfEven num (den * twoTo e.toNat)
    else roundHalfEven (num * twoTo (-e).toNat) den
  let (m, e) := if q = 2 * leadingBit then (leadingBit, e + 1) else (q, e)
  if h : IsCanonical m e then some ⟨negative, m, e, h⟩ else none

/-- The double nearest to an integer. -/
def ofInt? (n : Int) : Option Binary64 := ofRatio? (n < 0) n.natAbs 1

/-- The double nearest to a natural number, for numbers that are small enough. -/
def ofNat (n : Nat) : Binary64 := (ofRatio? false n 1).getD default

/-! ## Arithmetic -/

/-- The number with the other sign. -/
def neg (x : Binary64) : Binary64 := { x with negative := !x.negative }

instance : Neg Binary64 := ⟨neg⟩

/-- The rounded product of two nonnegative numbers. -/
def mul? (x y : Binary64) : Option Binary64 :=
  ofRatio? false (x.numerator * y.numerator) (x.denominator * y.denominator)

/-- The rounded quotient of a nonnegative number by a positive one. -/
def div? (x y : Binary64) : Option Binary64 :=
  ofRatio? false (x.numerator * y.denominator) (x.denominator * y.numerator)

/-- Is the number one of the zeros? -/
def isZero (x : Binary64) : Bool := x.significand == 0

/-- Does the number have no fractional part? -/
def isIntegral (x : Binary64) : Bool := x.numerator % x.denominator == 0

/-- The first number is less than the second.  The zeros are equal. -/
def lt (x y : Binary64) : Bool :=
  decide (x.signedNumerator * y.denominator < y.signedNumerator * x.denominator)

/-- The nearest integer; a half goes away from zero. -/
def roundHalfAway (x : Binary64) : Int :=
  let magnitude := (2 * x.numerator + x.denominator) / (2 * x.denominator)
  if x.negative then -(magnitude : Int) else magnitude

end Binary64

end EffectFlow
