/-!
# Blanks around text

A *blank* is a character with the Unicode property `White_Space`.  There are 25 of them.  `trim`
takes the blanks off both ends of a text.
-/

namespace EffectFlow.Text

/-- The blanks: the controls from tab to carriage return, the space, the next-line control, and the
spaces and separators above. -/
def isBlank (c : Char) : Bool :=
  let n := c.toNat
  (9 ≤ n && n ≤ 13) || n == 0x20 || n == 0x85 || n == 0xA0 || n == 0x1680 ||
    (0x2000 ≤ n && n ≤ 0x200A) || n == 0x2028 || n == 0x2029 || n == 0x202F || n == 0x205F ||
    n == 0x3000

/-- A text without the blanks at its ends. -/
def trim (text : List Char) : List Char :=
  ((text.dropWhile isBlank).reverse.dropWhile isBlank).reverse

end EffectFlow.Text
