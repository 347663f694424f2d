import EffectFlow.Numeric.Binary64

/-!
# Numerals in text

A *numeral* is a whole text that spells a number.

* `natural?` reads ASCII digits, at least one.
* `unsigned?` allows a plus before them, `signed?` a plus or a minus.  Both refuse what is out of a
  range of words.
* `real?` reads decimals with an optional point and exponent, and the names of the infinities and
  of the undefined number.  The result is rounded to the nearest double.
-/

namespace EffectFlow

/-- The least 64-bit signed integer. -/
def minSigned64 : Int := -0x8000000000000000

/-- The largest 64-bit signed integer. -/
def maxSigned64 : Int := 0x7FFFFFFFFFFFFFFF

/-- The number of 32-bit words. -/
def words32 : Nat := 0x100000000

namespace Numeral

/-! ## Integers -/

/-- The value of a digit. -/
def digitValue (c : Char) : Nat := c.toNat - '0'.toNat

/-- Appends digits to a number. -/
def ofDigits (start : Nat) (digits : List Char) : Nat :=
  digits.foldl (fun n c => 10 * n + digitValue c) start

/-- Reads digits and nothing else. -/
def natural? (text : List Char) : Option Nat :=
  if text.isEmpty || !text.all Char.isDigit then none else some (ofDigits 0 text)

/-- Reads digits after an optional plus, for a number below `2 ^ 32`. -/
def unsigned? (text : List Char) : Option Nat :=
  let digits := match text with
    | '+' :: rest => rest
    | _ => text
  (natural? digits).filter (· < words32)

/-- Reads digits after an optional sign, for a number in the range of 64-bit signed integers. -/
def signed? (text : List Char) : Option Int :=
  let value := match text with
    | '+' :: rest => (natural? rest).map Int.ofNat
    | '-' :: rest => (natural? rest).map fun n => -(n : Int)
    | _ => (natural? text).map Int.ofNat
  value.filter fun n => minSigned64 ≤ n && n ≤ maxSigned64

/-! ## Reals -/

/-- What a real numeral stands for. -/
inductive Real where
  /-- A double. -/
  | finite (x : Binary64)
  /-- A number beyond all doubles. -/
  | infinite (negative : Bool)
  /-- The undefined number. -/
  | undefined
deriving DecidableEq

/-- The double nearest to `± digits · 10 ^ power`.  Powers so large or so small that the result does
not depend on them are not computed. -/
def scaled (negative : Bool) (digits : Nat) (power : Int) : Real :=
  let width : Int := (Nat.toDigits 10 digits).length
  if digits = 0 || width + power < -400 then .finite (.zero negative)
  else if 400 < width + power then .infinite negative
  else
    let nearest :=
      if 0 ≤ power then Binary64.ofRatio? negative (digits * tenTo power.toNat) 1
      else Binary64.ofRatio? negative digits (tenTo (-power).toNat)
    match nearest with
    | some x => .finite x
    | none => .infinite negative

/-- Reads the exponent after the letter, or nothing at the end of the text. -/
def exponent? (text : List Char) : Option Int :=
  match text with
  | [] => some 0
  | c :: rest =>
    if c = 'e' || c = 'E' then
      match rest with
      | '+' :: digits => (natural? digits).map Int.ofNat
      | '-' :: digits => (natural? digits).map fun n => -(n : Int)
      | digits => (natural? digits).map Int.ofNat
    else none

/-- Reads a decimal without a sign: digits with an optional point among them, and an exponent. -/
def decimal? (negative : Bool) (text : List Char) : Option Real :=
  let whole := text.takeWhile Char.isDigit
  let rest := text.dropWhile Char.isDigit
  let (fraction, rest) := match rest with
    | '.' :: after => (after.takeWhile Char.isDigit, after.dropWhile Char.isDigit)
    | _ => ([], rest)
  if whole.isEmpty && fraction.isEmpty then none
  else
    (exponent? rest).map fun e =>
      scaled negative (ofDigits (ofDigits 0 whole) fraction) (e - fraction.length)

/-- Reads a numeral without a sign. -/
def unsignedReal? (negative : Bool) (text : List Char) : Option Real :=
  let name := text.map Char.toLower
  if name = ['i', 'n', 'f'] || name = ['i', 'n', 'f', 'i', 'n', 'i', 't', 'y'] then
    some (.infinite negative)
  else if name = ['n', 'a', 'n'] then some .undefined
  else decimal? negative text

/-- Reads a real numeral. -/
def real? (text : List Char) : Option Real :=
  match text with
  | '+' :: rest => unsignedReal? false rest
  | '-' :: rest => unsignedReal? true rest
  | _ => unsignedReal? false text

end Numeral

end EffectFlow
