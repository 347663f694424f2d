import EffectFlow.Text.Printable

/-!
# Quoted text in messages

A message quotes a text between double quotes.  The quote, the backslash and four controls have a
short escape.  Any other character that does not print by itself is written as its code point in
hexadecimal, between braces.
-/

namespace EffectFlow.Text

/-- The form of a character between quotes. -/
def quotedChar (c : Char) : List Char :=
  if c = '"' || c = '\\' then ['\\', c]
  else if c = '\n' then ['\\', 'n']
  else if c = '\r' then ['\\', 'r']
  else if c = '\t' then ['\\', 't']
  else if c.toNat = 0 then ['\\', '0']
  else if isPrintable c then [c]
  else ['\\', 'u', '{'] ++ Nat.toDigits 16 c.toNat ++ ['}']

/-- A text between quotes. -/
def quoted (text : String) : String :=
  String.ofList ('"' :: (text.toList.flatMap quotedChar ++ ['"']))

end EffectFlow.Text
