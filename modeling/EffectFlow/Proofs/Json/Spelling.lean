import EffectFlow.Proofs.Json.Numerals
import EffectFlow.Proofs.Json.Strings

/-!
# Spellings of trees

A *spelling* of a tree is a text of it with blanks wherever the grammar allows them
(`Spells`).  The reader takes every spelling for the tree it spells (`read_of_spells`), and both
printers write spellings (`spells_compact`, `spells_prettyAt`).  So a tree is read back from its
compact and from its indented text (`scan_compact`, `scan_pretty`).

A tree has a spelling if nothing in it is broken or torn and its numbers read back
(`Tree.NumbersReadBack`).
-/

namespace EffectFlow.Json

/-! ## Blanks -/

/-- The text is made of blanks. -/
def Blank (text : List Char) : Prop := ∀ c ∈ text, isSpace c = true

theorem blank_nil : Blank [] := by
  intro c h
  cases h

theorem skipSpace_append {before : List Char} (blank : Blank before) {c : Char}
    (solid : isSpace c = false) (rest : List Char) :
    skipSpace (before ++ c :: rest) = c :: rest := by
  rw [skipSpace, List.dropWhile_append_of_pos blank, List.dropWhile_cons, if_neg (by simp [solid])]

theorem stops_blank_append {before : List Char} (blank : Blank before) {c : Char}
    (h : c.isDigit = false ∧ c ≠ '.' ∧ c ≠ 'e' ∧ c ≠ 'E') (rest : List Char) :
    Stops (before ++ c :: rest) := by
  cases before with
  | nil => exact stops_cons h
  | cons b more =>
    refine stops_cons ?_
    have space : isSpace b = true := blank b List.mem_cons_self
    simp only [isSpace, Bool.or_eq_true, beq_iff_eq] at space
    rcases space with ((rfl | rfl) | rfl) | rfl <;> decide

/-! ## The grammar -/

mutual

/-- A text spells a tree. -/
inductive Spells : List Char → Tree → Prop
  | wordNull : Spells ['n', 'u', 'l', 'l'] .null
  | wordTrue : Spells ['t', 'r', 'u', 'e'] (.bool true)
  | wordFalse : Spells ['f', 'a', 'l', 's', 'e'] (.bool false)
  | number {n : Number} (back : n.ReadsBack) : Spells n.text (.number n)
  | text (s : String) : Spells (writeText s) (.text s)
  | emptyArray {before : List Char} (blank : Blank before) :
      Spells ('[' :: (before ++ [']'])) (.array [])
  | array {body : List Char} {items : List Tree} (spells : SpellsItems body items) :
      Spells ('[' :: body) (.array items)
  | emptyObject {before : List Char} (blank : Blank before) :
      Spells ('{' :: (before ++ ['}'])) (.object [])
  | object {body : List Char} {members : List (String × Tree)}
      (spells : SpellsMembers body members) : Spells ('{' :: body) (.object members)

/-- A text spells the items of an array, one at least, and the closing bracket. -/
inductive SpellsItems : List Char → List Tree → Prop
  | last {before text after : List Char} {t : Tree} (blankBefore : Blank before)
      (spells : Spells text t) (blankAfter : Blank after) :
      SpellsItems (before ++ (text ++ (after ++ [']']))) [t]
  | more {before text after rest : List Char} {t : Tree} {items : List Tree}
      (blankBefore : Blank before) (spells : Spells text t) (blankAfter : Blank after)
      (spellsRest : SpellsItems rest items) :
      SpellsItems (before ++ (text ++ (after ++ ',' :: rest))) (t :: items)

/-- A text spells the members of an object, one at least, and the closing brace. -/
inductive SpellsMembers : List Char → List (String × Tree) → Prop
  | last {before gap text after : List Char} {key : String} {t : Tree}
      (blankBefore : Blank before) (blankGap : Blank gap) (spells : Spells text t)
      (blankAfter : Blank after) :
      SpellsMembers (before ++ (writeText key ++ ':' :: (gap ++ (text ++ (after ++ ['}'])))))
        [(key, t)]
  | more {before gap text after rest : List Char} {key : String} {t : Tree}
      {members : List (String × Tree)} (blankBefore : Blank before) (blankGap : Blank gap)
      (spells : Spells text t) (blankAfter : Blank after)
      (spellsRest : SpellsMembers rest members) :
      SpellsMembers
        (before ++ (writeText key ++ ':' :: (gap ++ (text ++ (after ++ ',' :: rest)))))
        ((key, t) :: members)

end

/-- The first character of a number is a minus or a digit. -/
theorem head_of_number? {text rest : List Char} {token : NumberToken}
    (h : number? text = some (token, rest)) :
    ∃ c tail, text = c :: tail ∧ (c = '-' ∨ c.isDigit = true) := by
  cases text with
  | nil => cases h
  | cons c tail =>
    refine ⟨c, tail, rfl, ?_⟩
    by_cases minus : c = '-'
    · exact .inl minus
    · right
      simp only [number?, if_neg minus, unsignedNumber?, Option.bind_eq_bind,
        Option.bind_eq_some_iff] at h
      obtain ⟨⟨whole, r⟩, read, -⟩ := h
      cases digit : c.isDigit with
      | true => rfl
      | false => simp [whole?, digits?, digit] at read

/-- A character that a number begins with begins nothing else. -/
theorem numberHead_ne {c : Char} (h : c = '-' ∨ c.isDigit = true) :
    isSpace c = false ∧ c ≠ ']' ∧ c ≠ '"' ∧ c ≠ '[' ∧ c ≠ '{' ∧ c ≠ 'n' ∧ c ≠ 't' ∧ c ≠ 'f' := by
  rcases h with rfl | digit
  · decide
  · have apart : ∀ d : Char, d.isDigit = false → c ≠ d := by
      rintro d notDigit rfl
      rw [digit] at notDigit
      cases notDigit
    refine ⟨?_, ?_, ?_, ?_, ?_, ?_, ?_, ?_⟩
    · simp [isSpace, apart]
    all_goals exact apart _ (by decide)

/-- A spelling does not begin with a blank or a closing bracket. -/
theorem Spells.head {text : List Char} {t : Tree} (h : Spells text t) :
    ∃ c tail, text = c :: tail ∧ isSpace c = false ∧ c ≠ ']' := by
  cases h with
  | number back =>
    obtain ⟨token, read, -⟩ := back
    obtain ⟨c, tail, eq, first⟩ := head_of_number? read
    exact ⟨c, tail, eq, (numberHead_ne first).1, (numberHead_ne first).2.1⟩
  | text s => exact ⟨'"', _, rfl, by decide, by decide⟩
  | wordNull => exact ⟨'n', _, rfl, by decide, by decide⟩
  | wordTrue => exact ⟨'t', _, rfl, by decide, by decide⟩
  | wordFalse => exact ⟨'f', _, rfl, by decide, by decide⟩
  | emptyArray => exact ⟨'[', _, rfl, by decide, by decide⟩
  | array => exact ⟨'[', _, rfl, by decide, by decide⟩
  | emptyObject => exact ⟨'{', _, rfl, by decide, by decide⟩
  | object => exact ⟨'{', _, rfl, by decide, by decide⟩

/-- The spelling of items does not start with the closing bracket. -/
theorem SpellsItems.skipSpace {body : List Char} {items : List Tree} (h : SpellsItems body items)
    (rest : List Char) : ∃ c tail, skipSpace (body ++ rest) = c :: tail ∧ c ≠ ']' := by
  cases h with
  | last blankBefore spells =>
    obtain ⟨c, tail, rfl, solid, notClose⟩ := spells.head
    rw [List.append_assoc, List.cons_append, List.cons_append]
    exact ⟨c, _, skipSpace_append blankBefore solid _, notClose⟩
  | more blankBefore spells =>
    obtain ⟨c, tail, rfl, solid, notClose⟩ := spells.head
    rw [List.append_assoc, List.cons_append, List.cons_append]
    exact ⟨c, _, skipSpace_append blankBefore solid _, notClose⟩

/-- The spelling of members starts with the quote of a key. -/
theorem SpellsMembers.skipSpace {body : List Char} {members : List (String × Tree)}
    (h : SpellsMembers body members) (rest : List Char) :
    ∃ tail, skipSpace (body ++ rest) = '"' :: tail := by
  cases h with
  | last blankBefore =>
    rw [List.append_assoc, writeText, List.cons_append, List.cons_append]
    exact ⟨_, skipSpace_append blankBefore (by decide) _⟩
  | more blankBefore =>
    rw [List.append_assoc, writeText, List.cons_append, List.cons_append]
    exact ⟨_, skipSpace_append blankBefore (by decide) _⟩

/-! ## Reading -/

/-- The reader of members takes a key and its colon, and goes on with what follows. -/
theorem readMembers_key {before : List Char} (blank : Blank before) (key : String)
    (rest : List Char) :
    (Text.after? ['"'] (skipSpace (before ++ (writeText key ++ ':' :: rest)))).bind text? =
      some (some key, ':' :: rest) := by
  rw [writeText, List.cons_append, skipSpace_append blank (by decide), List.append_assoc]
  simp [Text.after?, text?_writeText]

theorem skipSpace_colon (rest : List Char) : skipSpace (':' :: rest) = ':' :: rest := rfl

mutual

/-- The reader takes a spelling for the tree it spells, given two calls for each character. -/
theorem read_of_spells : ∀ {text : List Char} {t : Tree}, Spells text t →
    ∀ (calls : Nat) {before rest : List Char}, Blank before → Stops rest →
      2 * text.length ≤ calls + 1 → Tree.read calls (before ++ (text ++ rest)) = (t, some rest)
  | _, _, .wordNull, calls + 1, before, rest, blank, _, _ => by
    rw [Tree.read, List.cons_append, skipSpace_append blank (by decide)]
    rfl
  | _, _, .wordTrue, calls + 1, before, rest, blank, _, _ => by
    rw [Tree.read, List.cons_append, skipSpace_append blank (by decide)]
    rfl
  | _, _, .wordFalse, calls + 1, before, rest, blank, _, _ => by
    rw [Tree.read, List.cons_append, skipSpace_append blank (by decide)]
    rfl
  | _, _, .number (n := n) back, calls, before, rest, blank, stops, bound => by
    obtain ⟨token, read, stands⟩ := back
    obtain ⟨c, tail, eq, first⟩ := head_of_number? read
    obtain ⟨solid, -, h₁, h₂, h₃, h₄, h₅, h₆⟩ := numberHead_ne first
    have readOn := number?_append read stops
    rw [eq, List.cons_append] at readOn
    rw [eq, List.length_cons] at bound
    obtain ⟨k, rfl⟩ : ∃ k, calls = k + 1 := ⟨calls - 1, by omega⟩
    rw [eq, Tree.read, List.cons_append, skipSpace_append blank solid]
    simp [h₁, h₂, h₃, h₄, h₅, h₆, readOn, Tree.ofLeaf, Tree.ofNumber, stands]
  | _, _, .text s, calls + 1, before, rest, blank, _, _ => by
    rw [Tree.read, writeText, List.cons_append, skipSpace_append blank (by decide)]
    simp [text?_writeText, Tree.ofLeaf, Tree.ofText]
  | _, _, .emptyArray inner, calls + 1, before, rest, blank, _, _ => by
    rw [Tree.read, List.cons_append, skipSpace_append blank (by decide), List.append_assoc]
    simp [skipSpace_append inner (show isSpace ']' = false by decide), Text.after?]
  | _, _, .array spells, calls + 1, before, rest, blank, _, bound => by
    rw [Tree.read, List.cons_append, skipSpace_append blank (by decide)]
    obtain ⟨c, tail, eq, notClose⟩ := spells.skipSpace rest
    rw [List.length_cons] at bound
    have items := readItems_of_spells spells calls rest (by omega)
    simp [eq, Text.after?, notClose.symm, items]
  | _, _, .emptyObject inner, calls + 1, before, rest, blank, _, _ => by
    rw [Tree.read, List.cons_append, skipSpace_append blank (by decide), List.append_assoc]
    simp [skipSpace_append inner (show isSpace '}' = false by decide), Text.after?]
  | _, _, .object spells, calls + 1, before, rest, blank, _, bound => by
    rw [Tree.read, List.cons_append, skipSpace_append blank (by decide)]
    obtain ⟨tail, eq⟩ := spells.skipSpace rest
    rw [List.length_cons] at bound
    have members := readMembers_of_spells spells calls rest (by omega)
    simp [eq, Text.after?, members, Tree.ofMembers]

/-- Items that are spelled are read, and what comes after them is left. -/
theorem readItems_of_spells : ∀ {body : List Char} {items : List Tree}, SpellsItems body items →
    ∀ (calls : Nat) (rest : List Char), 2 * body.length ≤ calls →
      Tree.readItems calls (body ++ rest) = (items, some rest)
  | _, _, @SpellsItems.last before text after _ blank spells blankAfter, calls, rest,
      bound => by
    simp only [List.length_append, List.length_cons] at bound
    obtain ⟨k, rfl⟩ : ∃ k, calls = k + 1 := ⟨calls - 1, by omega⟩
    have stops : Stops (after ++ ']' :: rest) := stops_blank_append blankAfter (by decide) rest
    have item := read_of_spells spells k blank stops (by omega)
    simp only [List.append_assoc, List.singleton_append]
    rw [Tree.readItems, item]
    simp [skipSpace_append blankAfter (show isSpace ']' = false by decide)]
  | _, _, @SpellsItems.more before text after more _ _ blank spells blankAfter spellsRest, calls,
      rest, bound => by
    simp only [List.length_append, List.length_cons] at bound
    obtain ⟨k, rfl⟩ : ∃ k, calls = k + 1 := ⟨calls - 1, by omega⟩
    have stops : Stops (after ++ ',' :: (more ++ rest)) :=
      stops_blank_append blankAfter (by decide) _
    have item := read_of_spells spells k blank stops (by omega)
    have items := readItems_of_spells spellsRest k rest (by omega)
    simp only [List.append_assoc, List.cons_append]
    rw [Tree.readItems, item]
    simp [skipSpace_append blankAfter (show isSpace ',' = false by decide), items]

/-- So are members. -/
theorem readMembers_of_spells : ∀ {body : List Char} {members : List (String × Tree)},
    SpellsMembers body members → ∀ (calls : Nat) (rest : List Char), 2 * body.length ≤ calls →
      Tree.readMembers calls (body ++ rest) = (⟨members, true⟩, some rest)
  | _, _, @SpellsMembers.last before gap text after key _ blank blankGap spells blankAfter, calls,
      rest, bound => by
    simp only [List.length_append, List.length_cons] at bound
    obtain ⟨k, rfl⟩ : ∃ k, calls = k + 1 := ⟨calls - 1, by omega⟩
    have stops : Stops (after ++ '}' :: rest) := stops_blank_append blankAfter (by decide) rest
    have member := read_of_spells spells k blankGap stops (by omega)
    simp only [List.append_assoc, List.cons_append, List.nil_append]
    rw [Tree.readMembers, readMembers_key blank key]
    simp [skipSpace_colon, Text.after?, member, Tree.Members.cons,
      skipSpace_append blankAfter (show isSpace '}' = false by decide)]
  | _, _, @SpellsMembers.more before gap text after more key _ _ blank blankGap spells blankAfter
      spellsRest, calls, rest, bound => by
    simp only [List.length_append, List.length_cons] at bound
    obtain ⟨k, rfl⟩ : ∃ k, calls = k + 1 := ⟨calls - 1, by omega⟩
    have stops : Stops (after ++ ',' :: (more ++ rest)) :=
      stops_blank_append blankAfter (by decide) _
    have member := read_of_spells spells k blankGap stops (by omega)
    have members := readMembers_of_spells spellsRest k rest (by omega)
    simp only [List.append_assoc, List.cons_append]
    rw [Tree.readMembers, readMembers_key blank key]
    simp [skipSpace_colon, Text.after?, member, Tree.Members.cons, members,
      skipSpace_append blankAfter (show isSpace ',' = false by decide)]

end

/-! ## Numbers of trees -/

namespace Tree

mutual

/-- Every number of the tree reads back. -/
def NumbersReadBack : Tree → Prop
  | number n => n.ReadsBack
  | array items => NumbersReadBackItems items
  | object members => NumbersReadBackMembers members
  | torn members => NumbersReadBackMembers members
  | _ => True
termination_by structural t => t

/-- Every number of the items reads back. -/
def NumbersReadBackItems : List Tree → Prop
  | [] => True
  | t :: rest => NumbersReadBack t ∧ NumbersReadBackItems rest
termination_by structural ts => ts

/-- Every number of the members reads back. -/
def NumbersReadBackMembers : List (String × Tree) → Prop
  | [] => True
  | (_, t) :: rest => NumbersReadBack t ∧ NumbersReadBackMembers rest
termination_by structural ms => ms

end

end Tree

/-! ## Printers -/

mutual

/-- The compact text of a tree spells it. -/
theorem spells_compact : ∀ {t : Tree}, t.isWhole = true → t.NumbersReadBack → Spells t.compact t
  | .null, _, _ => .wordNull
  | .bool true, _, _ => .wordTrue
  | .bool false, _, _ => .wordFalse
  | .number _, _, back => .number back
  | .text s, _, _ => .text s
  | .broken, whole, _ => by cases whole
  | .torn _, whole, _ => by cases whole
  | .array [], _, _ => .emptyArray blank_nil
  | .array (_ :: _), whole, back => .array (spellsItems_compact (List.cons_ne_nil _ _) whole back)
  | .object [], _, _ => .emptyObject blank_nil
  | .object (_ :: _), whole, back =>
    .object (spellsMembers_compact (List.cons_ne_nil _ _) whole back)

theorem spellsItems_compact : ∀ {items : List Tree}, items ≠ [] →
    Tree.isWholeItems items = true → Tree.NumbersReadBackItems items →
      SpellsItems (Tree.compactItems items) items
  | [], nonempty, _, _ => absurd rfl nonempty
  | [t], _, whole, back => by
    simp only [Tree.isWholeItems, Bool.and_true] at whole
    exact .last blank_nil (spells_compact whole back.1) blank_nil
  | t :: u :: us, _, whole, back => by
    rw [Tree.isWholeItems, Bool.and_eq_true] at whole
    exact .more blank_nil (spells_compact whole.1 back.1) blank_nil
      (spellsItems_compact (List.cons_ne_nil _ _) whole.2 back.2)

theorem spellsMembers_compact : ∀ {members : List (String × Tree)}, members ≠ [] →
    Tree.isWholeMembers members = true → Tree.NumbersReadBackMembers members →
      SpellsMembers (Tree.compactMembers members) members
  | [], nonempty, _, _ => absurd rfl nonempty
  | [(key, t)], _, whole, back => by
    simp only [Tree.isWholeMembers, Bool.and_true] at whole
    exact .last blank_nil blank_nil (spells_compact whole back.1) blank_nil
  | (key, t) :: m :: ms, _, whole, back => by
    rw [Tree.isWholeMembers, Bool.and_eq_true] at whole
    exact .more blank_nil blank_nil (spells_compact whole.1 back.1) blank_nil
      (spellsMembers_compact (List.cons_ne_nil _ _) whole.2 back.2)

end

theorem blank_newLine (level : Nat) : Blank (Tree.newLine level) := by
  intro c h
  rw [Tree.newLine, List.mem_cons, List.mem_replicate] at h
  rcases h with rfl | ⟨-, rfl⟩ <;> decide

theorem blank_space : Blank [' '] := by
  intro c h
  rw [List.mem_singleton.1 h]
  decide

mutual

/-- The indented text of a tree spells it. -/
theorem spells_prettyAt : ∀ {t : Tree} (level : Nat), t.isWhole = true → t.NumbersReadBack →
    Spells (t.prettyAt level) t
  | .null, _, _, _ => .wordNull
  | .bool true, _, _, _ => .wordTrue
  | .bool false, _, _, _ => .wordFalse
  | .number _, _, _, back => .number back
  | .text s, _, _, _ => .text s
  | .broken, _, whole, _ => by cases whole
  | .torn _, _, whole, _ => by cases whole
  | .array [], _, _, _ => .emptyArray blank_nil
  | .array (t :: rest), level, whole, back => by
    have items := spellsItems_pretty (level + 1) (List.cons_ne_nil t rest) whole back
      (blank_newLine level)
    rw [Tree.prettyAt, List.cons_append, List.cons_append, List.append_assoc]
    exact .array items
  | .object [], _, _, _ => .emptyObject blank_nil
  | .object (m :: rest), level, whole, back => by
    have members := spellsMembers_pretty (level + 1) (List.cons_ne_nil m rest) whole back
      (blank_newLine level)
    rw [Tree.prettyAt, List.cons_append, List.cons_append, List.append_assoc]
    exact .object members

theorem spellsItems_pretty : ∀ {items : List Tree} (level : Nat), items ≠ [] →
    Tree.isWholeItems items = true → Tree.NumbersReadBackItems items →
      ∀ {after : List Char}, Blank after →
        SpellsItems (Tree.prettyItems level items ++ (after ++ [']'])) items
  | [], _, nonempty, _, _, _, _ => absurd rfl nonempty
  | [t], level, _, whole, back, after, blank => by
    simp only [Tree.isWholeItems, Bool.and_true] at whole
    have item := spells_prettyAt level whole back.1
    simp only [Tree.prettyItems, List.append_nil, List.append_assoc]
    exact .last (blank_newLine level) item blank
  | t :: u :: us, level, _, whole, back, after, blank => by
    rw [Tree.isWholeItems, Bool.and_eq_true] at whole
    have item := spells_prettyAt level whole.1 back.1
    have items := spellsItems_pretty level (List.cons_ne_nil u us) whole.2 back.2 blank
    rw [Tree.prettyItems]
    simp only [List.append_assoc, List.cons_append]
    exact .more (blank_newLine level) item blank_nil items

theorem spellsMembers_pretty : ∀ {members : List (String × Tree)} (level : Nat), members ≠ [] →
    Tree.isWholeMembers members = true → Tree.NumbersReadBackMembers members →
      ∀ {after : List Char}, Blank after →
        SpellsMembers (Tree.prettyMembers level members ++ (after ++ ['}'])) members
  | [], _, nonempty, _, _, _, _ => absurd rfl nonempty
  | [(key, t)], level, _, whole, back, after, blank => by
    simp only [Tree.isWholeMembers, Bool.and_true] at whole
    have member := spells_prettyAt level whole back.1
    simp only [Tree.prettyMembers, List.append_nil, List.append_assoc, List.cons_append]
    exact .last (blank_newLine level) blank_space member blank
  | (key, t) :: m :: ms, level, _, whole, back, after, blank => by
    rw [Tree.isWholeMembers, Bool.and_eq_true] at whole
    have member := spells_prettyAt level whole.1 back.1
    have members := spellsMembers_pretty level (List.cons_ne_nil m ms) whole.2 back.2 blank
    rw [Tree.prettyMembers]
    simp only [List.append_assoc, List.cons_append]
    exact .more (blank_newLine level) blank_space member blank_nil members

end

/-! ## Whole texts -/

/-- A text that spells a tree is read as the tree, and follows the grammar. -/
theorem scan_of_spells {text : List Char} {t : Tree} (h : Spells text t) :
    Tree.scan (String.ofList text) = ⟨t, true⟩ := by
  have read := read_of_spells h (2 * text.length + 2) blank_nil stops_nil (by omega)
  rw [List.nil_append, List.append_nil] at read
  simp [Tree.scan, String.toList_ofList, read, skipSpace]

/-- The compact form of a whole tree is scanned back. -/
theorem scan_compact {t : Tree} (whole : t.isWhole = true) (back : t.NumbersReadBack) :
    Tree.scan (String.ofList t.compact) = ⟨t, true⟩ :=
  scan_of_spells (spells_compact whole back)

/-- So is its pretty form. -/
theorem scan_pretty {t : Tree} (whole : t.isWhole = true) (back : t.NumbersReadBack) :
    Tree.scan t.pretty = ⟨t, true⟩ :=
  scan_of_spells (spells_prettyAt 0 whole back)

end EffectFlow.Json
