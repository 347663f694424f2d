import EffectFlow.Json.Tree

/-!
# Writing JSON

Two forms of a tree: `Tree.compact` without blanks, and `Tree.pretty` with one item or member a
line, indented by two spaces for each container around it.  Empty containers stay on one line in
both.

A string is written between quotes.  The quote, the backslash and the controls are escaped, and all
else stands for itself.
-/

namespace EffectFlow.Json

/-- A hexadecimal digit in lower case. -/
def hexDigit (n : Nat) : Char := Nat.digitChar (n % 16)

/-- The form of a character inside a string. -/
def escapeChar (c : Char) : List Char :=
  if c = '"' then ['\\', '"']
  else if c = '\\' then ['\\', '\\']
  else if c = '\n' then ['\\', 'n']
  else if c = '\r' then ['\\', 'r']
  else if c = '\t' then ['\\', 't']
  else if c = '\x08' then ['\\', 'b']
  else if c = '\x0c' then ['\\', 'f']
  else if c.toNat < 0x20 then ['\\', 'u', '0', '0', hexDigit (c.toNat / 16), hexDigit c.toNat]
  else [c]

/-- A string between quotes. -/
def writeText (s : String) : List Char := '"' :: (s.toList.flatMap escapeChar ++ ['"'])

namespace Tree

/-- The text of a leaf.  What has no value is written as `null`. -/
def writeLeaf : Tree → List Char
  | bool true => ['t', 'r', 'u', 'e']
  | bool false => ['f', 'a', 'l', 's', 'e']
  | number n => n.text
  | text s => writeText s
  | _ => ['n', 'u', 'l', 'l']

/-! ## Compact form -/

mutual

/-- A tree without blanks. -/
def compact : Tree → List Char
  | array items => '[' :: compactItems items
  | object members => '{' :: compactMembers members
  | t => writeLeaf t
termination_by structural t => t

/-- The items, the commas between them, and the closing bracket. -/
def compactItems : List Tree → List Char
  | [] => [']']
  | t :: rest => compact t ++ match rest with
    | [] => [']']
    | _ :: _ => ',' :: compactItems rest
termination_by structural ts => ts

/-- The members, the commas between them, and the closing brace. -/
def compactMembers : List (String × Tree) → List Char
  | [] => ['}']
  | (key, t) :: rest => writeText key ++ ':' :: (compact t ++ match rest with
    | [] => ['}']
    | _ :: _ => ',' :: compactMembers rest)
termination_by structural ms => ms

end

/-! ## Indented form -/

/-- A new line inside a number of containers. -/
def newLine (level : Nat) : List Char := '\n' :: List.replicate (2 * level) ' '

mutual

/-- A tree inside a number of containers. -/
def prettyAt (level : Nat) : Tree → List Char
  | array [] => ['[', ']']
  | array (t :: rest) => '[' :: prettyItems (level + 1) (t :: rest) ++ newLine level ++ [']']
  | object [] => ['{', '}']
  | object (m :: rest) => '{' :: prettyMembers (level + 1) (m :: rest) ++ newLine level ++ ['}']
  | t => writeLeaf t
termination_by structural t => t

/-- The items, each on a new line. -/
def prettyItems (level : Nat) : List Tree → List Char
  | [] => []
  | t :: rest => newLine level ++ prettyAt level t ++ match rest with
    | [] => []
    | _ :: _ => ',' :: prettyItems level rest
termination_by structural ts => ts

/-- The members, each on a new line. -/
def prettyMembers (level : Nat) : List (String × Tree) → List Char
  | [] => []
  | (key, t) :: rest =>
    newLine level ++ writeText key ++ ':' :: ' ' :: (prettyAt level t ++ match rest with
      | [] => []
      | _ :: _ => ',' :: prettyMembers level rest)
termination_by structural ms => ms

end

/-- A tree with one item or member a line. -/
def pretty (t : Tree) : String := String.ofList (prettyAt 0 t)

end Tree

end EffectFlow.Json
