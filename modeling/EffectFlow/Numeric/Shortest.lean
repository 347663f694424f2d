import EffectFlow.Numeric.Binary64

/-!
# The shortest decimal of a double

Every double stands for an interval of reals, those that round to it.  Its *shortest decimal* is
the point of that interval with the fewest digits, and of those the nearest to the double
(`Binary64.shortest`).  Two points may be equally near, and then a `Tie` chooses between them.

A `NumberLayout` says how a tie is broken and how the digits are written: for which exponents a
plain form is used, whether an integral number keeps a point, and how an exponent looks.
-/

namespace EffectFlow

/-- The decimal `digits · 10 ^ exponent`. -/
structure Decimal where
  /-- The digits, read as one number. -/
  digits : Nat
  /-- The power of ten they are scaled by. -/
  exponent : Int
deriving DecidableEq, Repr

/-- Which of two decimals is taken that are equally near. -/
inductive Tie where
  /-- The one with an even last digit. -/
  | even
  /-- The larger one. -/
  | up
deriving DecidableEq

/-- The quotient nearest to `num / den`. -/
def Tie.round (tie : Tie) (num den : Nat) : Nat :=
  match tie with
  | even => roundHalfEven num den
  | up => (2 * num + den) / (2 * den)

/-- The decimal digits of a number, most significant first. -/
def decimalDigits (n : Nat) : List Char := Nat.toDigits 10 n

namespace Binary64

/-! ## Digits -/

/-- The reals that round to a positive double, over a common denominator. -/
structure Interval where
  /-- The numerator of the double. -/
  value : Nat
  /-- The numerator of the lower end. -/
  low : Nat
  /-- The numerator of the upper end. -/
  high : Nat
  /-- The denominator of all three. -/
  unit : Nat
  /-- Do the ends belong to the interval? -/
  closed : Bool

/-- The interval of a double.  Below a power of two the neighbour is half as far away.  The ends
round to the double when its significand is even. -/
def interval (x : Binary64) : Interval :=
  let scale := if 0 ≤ x.exponent then twoTo x.exponent.toNat else 1
  let below := if x.significand = leadingBit ∧ -1074 < x.exponent then 1 else 2
  { value := 4 * x.significand * scale
    low := (4 * x.significand - below) * scale
    high := (4 * x.significand + 2) * scale
    unit := 4 * x.denominator
    closed := x.significand % 2 == 0 }

/-- Does `n · 10 ^ power` lie in the interval? -/
def Interval.holds (i : Interval) (n : Nat) (power : Int) : Bool :=
  let point := if 0 ≤ power then n * tenTo power.toNat * i.unit else n * i.unit
  let scale := if 0 ≤ power then 1 else tenTo (-power).toNat
  if i.closed then i.low * scale ≤ point && point ≤ i.high * scale
  else i.low * scale < point && point < i.high * scale

/-- The multiple of `10 ^ power` in the interval that is nearest to the double. -/
def Interval.nearest? (i : Interval) (tie : Tie) (power : Int) : Option Decimal :=
  let num := if 0 ≤ power then i.value else i.value * tenTo (-power).toNat
  let den := if 0 ≤ power then i.unit * tenTo power.toNat else i.unit
  let near := tie.round num den
  let far := if near = num / den then near + 1 else num / den
  if i.holds near power then some ⟨near, power⟩
  else if i.holds far power then some ⟨far, power⟩
  else none

/-- The power of ten of the first digit of `num / den`, give or take one. -/
def leadingPower (num den : Nat) : Int :=
  ((num.log2 : Int) - den.log2) * 30103 / 100000

/-- Tries ever finer powers of ten. -/
def Interval.search (i : Interval) (tie : Tie) (power : Int) : Nat → Decimal
  | 0 => ⟨0, 0⟩
  | steps + 1 =>
    match i.nearest? tie power with
    | some d => d
    | none => i.search tie (power - 1) steps

/-- The decimal with the fewest digits that rounds to the absolute value of the number.  Powers of
ten are tried from above the first digit, and 17 digits always suffice. -/
def shortest (x : Binary64) (tie : Tie) : Decimal :=
  if x.isZero then ⟨0, 0⟩
  else
    let i := x.interval
    i.search tie (leadingPower i.value i.unit + 2) 22

end Binary64

/-! ## Layout -/

/-- How a decimal is written. -/
structure NumberLayout where
  /-- How a tie is broken. -/
  tie : Tie
  /-- Is a decimal whose first digit has this power of ten written plainly? -/
  plain : Int → Bool
  /-- What follows the digits of an integral number in plain form. -/
  integral : List Char
  /-- What stands before a nonnegative exponent. -/
  plus : List Char

namespace NumberLayout

/-- The digits with the point after the first `point` of them, filled with zeros. -/
def positional (layout : NumberLayout) (digits : List Char) (point : Int) : List Char :=
  if digits.length ≤ point then
    digits ++ List.replicate (point - digits.length).toNat '0' ++ layout.integral
  else if 0 < point then
    digits.take point.toNat ++ '.' :: digits.drop point.toNat
  else
    '0' :: '.' :: (List.replicate (-point).toNat '0' ++ digits)

/-- One digit, the point, the other digits and the exponent. -/
def scientific (layout : NumberLayout) (digits : List Char) (power : Int) : List Char :=
  let fraction := match digits.drop 1 with
    | [] => []
    | rest => '.' :: rest
  let sign := if power < 0 then ['-'] else layout.plus
  digits.take 1 ++ fraction ++ 'e' :: sign ++ decimalDigits power.natAbs

/-- The text of a decimal. -/
def write (layout : NumberLayout) (d : Decimal) : List Char :=
  if d.digits = 0 then '0' :: layout.integral
  else
    let digits := decimalDigits d.digits
    let point := digits.length + d.exponent
    if layout.plain (point - 1) then layout.positional digits point
    else layout.scientific digits (point - 1)

/-- The text of a double: a sign and its shortest decimal. -/
def text (layout : NumberLayout) (x : Binary64) : List Char :=
  (if x.negative then ['-'] else []) ++ layout.write (x.shortest layout.tie)

end NumberLayout

/-- Numbers in JSON text: plain from `1e-5` up to `1e16`, with a point in every plain form. -/
def NumberLayout.json : NumberLayout where
  tie := .even
  plain power := decide (-5 ≤ power) && decide (power < 16)
  integral := ['.', '0']
  plus := ['+']

/-- Bounds in messages: plain throughout, integral numbers without a point, and ties go up. -/
def NumberLayout.bound : NumberLayout where
  tie := .up
  plain _ := true
  integral := []
  plus := []

end EffectFlow
