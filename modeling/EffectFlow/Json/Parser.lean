import EffectFlow.Json.Tree
import EffectFlow.Text.Cut

/-!
# Reading JSON

A text follows the grammar if it holds one value and blanks around it.  The grammar is the strict
one: no comments, no comma before a closing bracket, no controls inside strings.  The nesting is
not limited here; see `Tree.isReadable`.

`Tree.scan` reads as much of any text as can be read, and tells whether the text follows the
grammar.  `Tree.parse?` gives the tree of a text that does.

The readers of leaves take the characters that are left and give what they read and the characters
after it, or nothing.  The readers of trees always give a tree, and the characters after it unless
the grammar was left.  They carry a bound on the number of calls.  Each call consumes a character or
is one of two for a container, so twice the length of the text is enough.
-/

namespace EffectFlow.Json

open EffectFlow.Text (after?)

/-- The blanks between the pieces of a text. -/
def isSpace (c : Char) : Bool := c == ' ' || c == '\n' || c == '\t' || c == '\r'

/-- The rest of a text after its first blanks. -/
def skipSpace (text : List Char) : List Char := text.dropWhile isSpace

/-! ## Strings -/

/-- A piece of a string: a character, or a code unit that is written in hexadecimal. -/
inductive Piece where
  /-- A character. -/
  | char (c : Char)
  /-- A code unit of 16 bits. -/
  | unit (n : Nat)

/-- The value of a hexadecimal digit. -/
def hexValue? (c : Char) : Option Nat :=
  if c.isDigit then some (c.toNat - '0'.toNat)
  else if 'a' ≤ c && c ≤ 'f' then some (c.toNat - 'a'.toNat + 10)
  else if 'A' ≤ c && c ≤ 'F' then some (c.toNat - 'A'.toNat + 10)
  else none

/-- The code unit of four hexadecimal digits. -/
def codeUnit? (a b c d : Char) : Option Nat := do
  let a ← hexValue? a
  let b ← hexValue? b
  let c ← hexValue? c
  let d ← hexValue? d
  some (((a * 16 + b) * 16 + c) * 16 + d)

/-- The character that a letter after a backslash stands for. -/
def shortEscape? (c : Char) : Option Char :=
  if c = '"' || c = '\\' || c = '/' then some c
  else if c = 'n' then some '\n'
  else if c = 'r' then some '\r'
  else if c = 't' then some '\t'
  else if c = 'b' then some '\x08'
  else if c = 'f' then some '\x0c'
  else none

/-- Reads the rest of a string after its opening quote.  The pieces read so far are in reverse. -/
def pieces? (taken : List Piece) : List Char → Option (List Piece × List Char)
  | [] => none
  | c :: rest =>
    if c = '"' then some (taken.reverse, rest)
    else if c = '\\' then
      match rest with
      | [] => none
      | e :: rest =>
        if e = 'u' then
          match rest with
          | h₁ :: h₂ :: h₃ :: h₄ :: rest =>
            match codeUnit? h₁ h₂ h₃ h₄ with
            | some n => pieces? (.unit n :: taken) rest
            | none => none
          | _ => none
        else
          match shortEscape? e with
          | some c => pieces? (.char c :: taken) rest
          | none => none
    else if c.toNat < 0x20 then none
    else pieces? (.char c :: taken) rest

/-- Is the code unit the first half of a surrogate pair? -/
def isHighSurrogate (n : Nat) : Bool := 0xD800 ≤ n && n ≤ 0xDBFF

/-- Is the code unit the second half of a surrogate pair? -/
def isLowSurrogate (n : Nat) : Bool := 0xDC00 ≤ n && n ≤ 0xDFFF

/-- The characters of the pieces.  There are none if half of a surrogate pair stands alone. -/
def assemble? : List Piece → Option (List Char)
  | [] => some []
  | .char c :: rest => (assemble? rest).map (c :: ·)
  | .unit n :: rest =>
    if isHighSurrogate n then
      match rest with
      | .unit m :: rest =>
        if isLowSurrogate m then
          let c := Char.ofNat (0x10000 + (n - 0xD800) * 0x400 + (m - 0xDC00))
          (assemble? rest).map (c :: ·)
        else none
      | _ => none
    else if isLowSurrogate n then none
    else (assemble? rest).map (Char.ofNat n :: ·)

/-- Reads the rest of a string after its opening quote.  The string is missing if it has no
characters. -/
def text? (text : List Char) : Option (Option String × List Char) :=
  (pieces? [] text).map fun (pieces, rest) => ((assemble? pieces).map String.ofList, rest)

/-! ## Numbers -/

/-- Reads one digit or more. -/
def digits? (text : List Char) : Option (List Char × List Char) :=
  let digits := text.takeWhile Char.isDigit
  if digits.isEmpty then none else some (digits, text.dropWhile Char.isDigit)

/-- Reads the digits before the point.  No digit follows a zero in front. -/
def whole? (text : List Char) : Option (List Char × List Char) :=
  match digits? text with
  | some ('0' :: _ :: _, _) => none
  | other => other

/-- Reads a point and the digits after it, if there is a point. -/
def fraction? : List Char → Option (Option (List Char) × List Char)
  | [] => some (none, [])
  | c :: rest =>
    if c = '.' then (digits? rest).map fun (digits, rest) => (some digits, rest)
    else some (none, c :: rest)

/-- Reads an exponent, if there is one. -/
def exponent? : List Char → Option (Option (Bool × List Char) × List Char)
  | [] => some (none, [])
  | c :: rest =>
    if c = 'e' || c = 'E' then
      match rest with
      | [] => none
      | s :: rest =>
        let digits := if s = '+' || s = '-' then rest else s :: rest
        (digits? digits).map fun (digits, rest) => (some (s == '-', digits), rest)
    else some (none, c :: rest)

/-- Reads a number without its sign. -/
def unsignedNumber? (negative : Bool) (text : List Char) : Option (NumberToken × List Char) := do
  let (whole, rest) ← whole? text
  let (fraction, rest) ← fraction? rest
  let (exponent, rest) ← exponent? rest
  some (⟨negative, whole, fraction, exponent⟩, rest)

/-- Reads a number. -/
def number? : List Char → Option (NumberToken × List Char)
  | [] => none
  | c :: rest => if c = '-' then unsignedNumber? true rest else unsignedNumber? false (c :: rest)

/-! ## Trees -/

namespace Tree

/-- The leaf of a string. -/
def ofText : Option String → Tree
  | some s => text s
  | none => broken

/-- The leaf of a number. -/
def ofNumber (token : NumberToken) : Tree :=
  match Number.ofToken? token with
  | some n => number n
  | none => broken

/-- The tree of a leaf, and the characters after it. -/
def ofLeaf {α : Type} (leaf : α → Tree) : Option (α × List Char) → Tree × Option (List Char)
  | some (x, rest) => (leaf x, some rest)
  | none => (broken, none)

/-- The tree of a word, given the characters after it. -/
def ofWord (t : Tree) : Option (List Char) → Tree × Option (List Char)
  | some rest => (t, some rest)
  | none => (broken, none)

/-- The members of an object, as far as they can be read. -/
structure Members where
  /-- The members. -/
  read : List (String × Tree)
  /-- Are these all of them? -/
  all : Bool

/-- Puts a member in front, unless its key has no characters. -/
def Members.cons (key : Option String) (t : Tree) (members : Members) : Members :=
  match key with
  | some key => { members with read := (key, t) :: members.read }
  | none => ⟨[], false⟩

/-- The object of the members. -/
def ofMembers (members : Members) : Tree :=
  if members.all then object members.read else torn members.read

mutual

/-- Reads a tree. -/
def read : Nat → List Char → Tree × Option (List Char)
  | 0, _ => (broken, none)
  | calls + 1, cs =>
    match skipSpace cs with
    | [] => (broken, none)
    | c :: rest =>
      if c = '"' then ofLeaf ofText (text? rest)
      else if c = '[' then
        match after? [']'] (skipSpace rest) with
        | some rest => (array [], some rest)
        | none =>
          let (items, rest) := readItems calls rest
          (array items, rest)
      else if c = '{' then
        match after? ['}'] (skipSpace rest) with
        | some rest => (object [], some rest)
        | none =>
          let (members, rest) := readMembers calls rest
          (ofMembers members, rest)
      else if c = 'n' then ofWord null (after? ['u', 'l', 'l'] rest)
      else if c = 't' then ofWord (bool true) (after? ['r', 'u', 'e'] rest)
      else if c = 'f' then ofWord (bool false) (after? ['a', 'l', 's', 'e'] rest)
      else ofLeaf ofNumber (number? (c :: rest))
termination_by structural calls => calls

/-- Reads the items of an array, one at least, and the closing bracket.  Where the grammar is left
the last item is broken. -/
def readItems : Nat → List Char → List Tree × Option (List Char)
  | 0, _ => ([broken], none)
  | calls + 1, cs =>
    match read calls cs with
    | (t, none) => ([t], none)
    | (t, some rest) =>
      match skipSpace rest with
      | [] => ([t, broken], none)
      | c :: rest =>
        if c = ']' then ([t], some rest)
        else if c = ',' then
          let (items, rest) := readItems calls rest
          (t :: items, rest)
        else ([t, broken], none)
termination_by structural calls => calls

/-- Reads the members of an object, one at least, and the closing brace. -/
def readMembers : Nat → List Char → Members × Option (List Char)
  | 0, _ => (⟨[], false⟩, none)
  | calls + 1, cs =>
    match (after? ['"'] (skipSpace cs)).bind text? with
    | none => (⟨[], false⟩, none)
    | some (key, rest) =>
      match after? [':'] (skipSpace rest) with
      | none => (.cons key broken ⟨[], false⟩, none)
      | some rest =>
        match read calls rest with
        | (t, none) => (.cons key t ⟨[], false⟩, none)
        | (t, some rest) =>
          match skipSpace rest with
          | [] => (.cons key t ⟨[], false⟩, none)
          | c :: rest =>
            if c = '}' then (.cons key t ⟨[], true⟩, some rest)
            else if c = ',' then
              let (members, rest) := readMembers calls rest
              (.cons key t members, rest)
            else (.cons key t ⟨[], false⟩, none)
termination_by structural calls => calls

end

/-- What was read of a text. -/
structure Scan where
  /-- The tree. -/
  tree : Tree
  /-- Does the text follow the grammar? -/
  grammatical : Bool

/-- Reads as much of a text as can be read. -/
def scan (text : String) : Scan :=
  let cs := text.toList
  match read (2 * cs.length + 2) cs with
  | (t, some rest) => ⟨t, (skipSpace rest).isEmpty⟩
  | (t, none) => ⟨t, false⟩

/-- The tree of a text that follows the grammar. -/
def parse? (text : String) : Option Tree :=
  if (scan text).grammatical then some (scan text).tree else none

end Tree

end EffectFlow.Json
