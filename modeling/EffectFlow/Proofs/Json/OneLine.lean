import EffectFlow.Json.Record
import EffectFlow.Proofs.Json.Numerals

/-!
# What is written on one line

Digits have no line feed, and a line feed between quotes is escaped, in JSON and in messages.  So
numbers, compact JSON (`Value.oneLine_compact`) and the description of what was found
(`Found.oneLine_description`) are one line each.

The message of a fault is one line if the texts that it quotes as they are, `Fault.quoted`, have no
line feed (`Fault.oneLine_message`).  The faults of a record quote its name and its keys, and what
the faults of its fields quote (`Shape.quotesOneLine_read`).  Keys that are passed over are not
quoted.
-/

namespace EffectFlow

/-! ## Texts -/

namespace Text

/-- The text has no line feed. -/
abbrev OneLine (text : String) : Prop := '\n' ∉ text.toList

theorem oneLine_ofList {cs : List Char} : OneLine (String.ofList cs) ↔ '\n' ∉ cs := by
  rw [OneLine, String.toList_ofList]

theorem oneLine_append {front back : String} :
    OneLine (front ++ back) ↔ OneLine front ∧ OneLine back := by
  rw [OneLine, String.toList_append, List.mem_append, not_or]

/-- Lines that are put together by a line are one line. -/
theorem oneLine_intercalate {between : String} {parts : List String} (plain : OneLine between)
    (each : ∀ part ∈ parts, OneLine part) : OneLine (between.intercalate parts) := by
  match parts with
  | [] => simp [OneLine]
  | [part] => simpa using each
  | part :: next :: rest =>
    obtain ⟨first, later⟩ := List.forall_mem_cons.1 each
    rw [String.intercalate_cons_cons, oneLine_append, oneLine_append]
    exact ⟨⟨first, plain⟩, oneLine_intercalate plain later⟩

end Text

open Text (OneLine)

/-! ## Numbers -/

theorem lineFeed_ne_digitChar : ∀ d, d < 16 → '\n' ≠ Nat.digitChar d := by decide

theorem lineFeed_notMem_toDigits {base : Nat} (one_lt : 1 < base) (le : base ≤ 16) (n : Nat) :
    '\n' ∉ Nat.toDigits base n := by
  induction n using Nat.strongRecOn with
  | ind n ih =>
    rw [Nat.toDigits_eq_if one_lt]
    split
    · rw [List.mem_singleton]
      exact lineFeed_ne_digitChar n (by omega)
    · have small : n % base < base := Nat.mod_lt n (by omega)
      rw [List.mem_append, List.mem_singleton, not_or]
      exact ⟨ih _ (Nat.div_lt_self (by omega) one_lt), lineFeed_ne_digitChar _ (by omega)⟩

@[simp] theorem lineFeed_notMem_toDigits_ten (n : Nat) : '\n' ∉ Nat.toDigits 10 n :=
  lineFeed_notMem_toDigits (by decide) (by decide) n

theorem lineFeed_notMem_decimalDigits (n : Nat) : '\n' ∉ decimalDigits n :=
  lineFeed_notMem_toDigits_ten n

theorem oneLine_repr_nat (n : Nat) : OneLine n.repr := by
  rw [OneLine, Nat.toList_repr]
  exact lineFeed_notMem_toDigits_ten n

theorem oneLine_repr_int (n : Int) : OneLine n.repr := by
  show '\n' ∉ (toString n).toList
  rw [Json.toList_toString_int]
  split <;> simp [lineFeed_notMem_decimalDigits]

namespace NumberLayout

variable {layout : NumberLayout}

/-- A number that is written in positional form is one line. -/
theorem lineFeed_notMem_positional (integral : '\n' ∉ layout.integral) {digits : List Char}
    (plain : '\n' ∉ digits) (point : Int) : '\n' ∉ layout.positional digits point := by
  have front (n : Nat) : '\n' ∉ digits.take n := fun mem => plain (List.mem_of_mem_take mem)
  have back (n : Nat) : '\n' ∉ digits.drop n := fun mem => plain (List.mem_of_mem_drop mem)
  unfold positional
  split
  · simp [plain, integral]
  · split <;> simp [plain, front, back]

theorem lineFeed_notMem_scientific (plus : '\n' ∉ layout.plus) {digits : List Char}
    (plain : '\n' ∉ digits) (power : Int) : '\n' ∉ layout.scientific digits power := by
  have front : '\n' ∉ digits.take 1 := fun mem => plain (List.mem_of_mem_take mem)
  have back : '\n' ∉ digits.tail := fun mem => plain (List.mem_of_mem_tail mem)
  have sign : '\n' ∉ if power < 0 then ['-'] else layout.plus := by
    split
    · decide
    · exact plus
  have exponent := lineFeed_notMem_decimalDigits power.natAbs
  unfold scientific
  split
  · simp [front, sign, exponent]
  · simp [front, back, sign, exponent]

/-- A double is written on one line if what stands for its point and for its plus is. -/
theorem lineFeed_notMem_text (integral : '\n' ∉ layout.integral) (plus : '\n' ∉ layout.plus)
    (x : Binary64) : '\n' ∉ layout.text x := by
  have digits := lineFeed_notMem_decimalDigits (x.shortest layout.tie).digits
  have written : '\n' ∉ layout.write (x.shortest layout.tie) := by
    simp only [write]
    split
    · simp [integral]
    · split
      · exact lineFeed_notMem_positional integral digits _
      · exact lineFeed_notMem_scientific plus digits _
  unfold text
  split <;> simp [written]

end NumberLayout

@[simp] theorem NumberLayout.lineFeed_notMem_bound (x : Binary64) : '\n' ∉ bound.text x :=
  lineFeed_notMem_text (by decide) (by decide) x

/-- A number is one line, whatever its form. -/
theorem Json.Number.lineFeed_notMem_text (n : Json.Number) : '\n' ∉ n.text := by
  cases n with
  | integer n fits =>
    rw [text, List.mem_append, not_or]
    refine ⟨?_, lineFeed_notMem_decimalDigits _⟩
    split <;> decide
  | float x => exact NumberLayout.lineFeed_notMem_text (by decide) (by decide) x

/-! ## Quoted texts -/

theorem Text.lineFeed_notMem_quotedChar (c : Char) : '\n' ∉ quotedChar c := by
  unfold quotedChar
  split
  · next special =>
    simp only [Bool.or_eq_true, decide_eq_true_eq] at special
    rcases special with rfl | rfl <;> decide
  · split
    · decide
    · next other =>
      repeat' split
      all_goals
        simp [Ne.symm other, lineFeed_notMem_toDigits (show 1 < 16 by decide) (le_refl 16)]

/-- A quoted text is one line: its line feeds are escaped. -/
@[simp] theorem Text.oneLine_quoted (s : String) : OneLine (quoted s) := by
  rw [quoted, oneLine_ofList]
  simp [lineFeed_notMem_quotedChar]

namespace Json

theorem lineFeed_notMem_escapeChar (c : Char) : '\n' ∉ escapeChar c := by
  have digit (n : Nat) : '\n' ≠ hexDigit n := lineFeed_ne_digitChar _ (Nat.mod_lt _ (by decide))
  unfold escapeChar
  repeat' split
  all_goals simp_all [eq_comm]

/-- A text is one line in its JSON form: its line feeds are escaped. -/
theorem lineFeed_notMem_writeText (s : String) : '\n' ∉ writeText s := by
  simp [writeText, lineFeed_notMem_escapeChar]

namespace Tree

theorem lineFeed_notMem_writeLeaf (t : Tree) : '\n' ∉ writeLeaf t := by
  cases t with
  | bool b => cases b <;> decide
  | number n => exact n.lineFeed_notMem_text
  | text s => exact lineFeed_notMem_writeText s
  | _ => simp [writeLeaf]

mutual

/-- The compact form of a tree is one line. -/
theorem lineFeed_notMem_compact : ∀ t : Tree, '\n' ∉ t.compact
  | .array items => by simp [compact, lineFeed_notMem_compactItems items]
  | .object members => by simp [compact, lineFeed_notMem_compactMembers members]
  | .null => lineFeed_notMem_writeLeaf .null
  | .bool b => lineFeed_notMem_writeLeaf (.bool b)
  | .number n => lineFeed_notMem_writeLeaf (.number n)
  | .text s => lineFeed_notMem_writeLeaf (.text s)
  | .broken => lineFeed_notMem_writeLeaf .broken
  | .torn ms => lineFeed_notMem_writeLeaf (.torn ms)

theorem lineFeed_notMem_compactItems : ∀ items : List Tree, '\n' ∉ compactItems items
  | [] => by decide
  | [t] => by simp [compactItems, lineFeed_notMem_compact t]
  | t :: u :: rest => by
    show '\n' ∉ t.compact ++ ',' :: compactItems (u :: rest)
    simp [lineFeed_notMem_compact t, lineFeed_notMem_compactItems (u :: rest)]

theorem lineFeed_notMem_compactMembers : ∀ members : List (String × Tree),
    '\n' ∉ compactMembers members
  | [] => by decide
  | [(key, t)] => by
    simp [compactMembers, lineFeed_notMem_compact t, lineFeed_notMem_writeText key]
  | (key, t) :: m :: rest => by
    show '\n' ∉ writeText key ++ ':' :: (t.compact ++ ',' :: compactMembers (m :: rest))
    simp [lineFeed_notMem_compact t, lineFeed_notMem_writeText key,
      lineFeed_notMem_compactMembers (m :: rest)]

end

end Tree

@[simp] theorem Value.oneLine_compact (v : Value) : OneLine v.compact :=
  Text.oneLine_ofList.2 v.tree.lineFeed_notMem_compact

/-! ## Faults -/

@[simp] theorem oneLine_ticked {word : String} : OneLine (ticked word) ↔ OneLine word := by
  simp [OneLine, ticked]

@[simp] theorem Found.oneLine_description (found : Found) : OneLine found.description := by
  cases found with
  | bool b => cases b <;> decide
  | number n => cases n <;> simp [OneLine, description, Number.lineFeed_notMem_text]
  | text s => simp [OneLine, description]
  | _ => decide

/-- The texts that a fault quotes as they are. -/
def Fault.quoted : Fault → List String
  | wrongType _ expected | wrongValue _ expected | wrongLength _ expected => [expected]
  | missingField key | duplicateField key => [key]
  | unknownVariant word options => word :: options
  | _ => []

/-- A fault is one line if what it quotes is. -/
theorem Fault.oneLine_message {fault : Fault} (plain : ∀ text ∈ fault.quoted, OneLine text) :
    OneLine fault.message := by
  cases fault with
  | unknownVariant word options =>
    obtain ⟨first, each⟩ := List.forall_mem_cons.1 plain
    have listed : OneLine (", ".intercalate (options.map ticked)) :=
      Text.oneLine_intercalate (by simp [OneLine])
        (List.forall_mem_map.2 fun option mem => oneLine_ticked.2 (each option mem))
    unfold message
    rw [Text.oneLine_append]
    refine ⟨?_, listed⟩
    simp [OneLine, first]
  | _ =>
    unfold message
    simp_all [OneLine, quoted]

/-- A tree that does not fit is quoted in one line. -/
theorem Tree.oneLine_of_quoted_misfit {expected : String} (plain : OneLine expected) (t : Tree) :
    ∀ text ∈ (t.misfit expected).quoted, OneLine text := by
  cases t with
  | broken => exact List.forall_mem_nil _
  | _ => exact List.forall_mem_singleton.2 plain

/-! ## Readers -/

/-- Two steps fail exactly if the first fails, or it succeeds and the second fails. -/
theorem bind_eq_error_iff {ε α β : Type} {first : Except ε α} {next : α → Except ε β} {e : ε} :
    first >>= next = .error e ↔ first = .error e ∨ ∃ a, first = .ok a ∧ next a = .error e := by
  cases first <;> simp [bind, Except.bind]

namespace Reader

variable {α β : Type}

/-- What the faults of a reader quote is one line. -/
def QuotesOneLine (reader : Reader α) : Prop :=
  ∀ room t fault, reader room t = .error fault → ∀ text ∈ fault.quoted, OneLine text

variable {reader item : Reader α}

/-- A reader quotes one line still when its result is changed. -/
theorem QuotesOneLine.map (plain : reader.QuotesOneLine) (f : α → β) :
    QuotesOneLine fun room t => (reader room t).map f := by
  intro room t fault failed
  cases read : reader room t with
  | ok x =>
    simp only [read] at failed
    cases failed
  | error fault' =>
    simp only [read] at failed
    cases failed
    exact plain room t fault read

theorem quotesOneLine_text : text.QuotesOneLine := by
  intro room t fault failed
  cases t with
  | text s => cases failed
  | _ =>
    cases failed
    exact Tree.oneLine_of_quoted_misfit (by simp [OneLine]) _

theorem quotesOneLine_integer {expected : String} (plain : OneLine expected) (least most : Int) :
    (integer least most expected).QuotesOneLine := by
  intro room t fault failed
  match t with
  | .number (.integer n fits) =>
    simp only [integer] at failed
    split at failed
    · cases failed
    · cases failed
      exact List.forall_mem_singleton.2 plain
  | .number (.float x) | .null | .bool _ | .text _ | .array _ | .object _ | .torn _ | .broken =>
    cases failed
    exact Tree.oneLine_of_quoted_misfit plain _

theorem quotesOneLine_int64 : int64.QuotesOneLine :=
  (quotesOneLine_integer (by simp [OneLine]) _ _).map _

theorem quotesOneLine_value : value.QuotesOneLine := by
  intro room t fault failed
  simp only [value] at failed
  split at failed
  · split at failed
    · cases failed
    · cases failed
      exact List.forall_mem_nil _
  · cases failed
    exact List.forall_mem_nil _

theorem quotesOneLine_optional (plain : item.QuotesOneLine) :
    (optional item).QuotesOneLine := by
  intro room t fault failed
  cases t with
  | null => cases failed
  | _ => exact plain.map some room _ fault failed

theorem exists_of_members_error {item : Tree → Except Fault α} {ms : List (String × Tree)}
    {fault : Fault} (failed : members item ms = .error fault) : ∃ t, item t = .error fault := by
  induction ms with
  | nil => cases failed
  | cons m rest ih =>
    rw [members, bind_eq_error_iff] at failed
    rcases failed with first | ⟨x, -, later⟩
    · exact ⟨m.2, first⟩
    · rw [bind_eq_error_iff] at later
      rcases later with later | ⟨xs, -, none⟩
      · exact ih later
      · cases none

theorem quotesOneLine_dict (plain : item.QuotesOneLine) : (dict item).QuotesOneLine := by
  intro room t fault failed
  have within {room : Nat} {ms : List (String × Tree)} {fault : Fault}
      (failed : members (item room) ms = .error fault) : ∀ text ∈ fault.quoted, OneLine text := by
    obtain ⟨u, failed⟩ := exists_of_members_error failed
    exact plain room u fault failed
  match room, t with
  | room + 1, .object ms =>
    cases read : members (item room) ms with
    | error fault' =>
      simp only [dict, read] at failed
      cases failed
      exact within read
    | ok xs =>
      simp only [dict, read] at failed
      cases failed
  | room + 1, .torn ms =>
    rw [dict, bind_eq_error_iff] at failed
    rcases failed with failed | ⟨xs, -, torn⟩
    · exact within failed
    · cases torn
      exact List.forall_mem_nil _
  | 0, .object _ | 0, .torn _ =>
    cases failed
    exact List.forall_mem_nil _
  | 0, .null | 0, .bool _ | 0, .number _ | 0, .text _ | 0, .array _ | 0, .broken
  | room + 1, .null | room + 1, .bool _ | room + 1, .number _ | room + 1, .text _
  | room + 1, .array _ | room + 1, .broken =>
    cases failed
    exact Tree.oneLine_of_quoted_misfit (by simp [OneLine]) _

end Reader

/-! ## Records -/

namespace Shape

variable {R : Type}

/-- The name and the keys of a shape are one line each, and so is what the faults of its fields
quote. -/
structure Plain (shape : Shape R) : Prop where
  /-- The name. -/
  name : OneLine shape.name
  /-- The keys. -/
  key : ∀ field ∈ shape.fields, OneLine field.key
  /-- What the faults of the fields quote. -/
  read : ∀ field ∈ shape.fields, field.read.QuotesOneLine

/-- A fault in the members of a record quotes one line, as its keys and fields do. -/
theorem oneLine_of_readMembers {fields : List (Field R)} (key : ∀ field ∈ fields, OneLine field.key)
    (read : ∀ field ∈ fields, field.read.QuotesOneLine) {room : Nat} {ms : List (String × Tree)}
    {seen : List String} {r : R} {fault : Fault}
    (failed : readMembers fields room ms seen r = .error fault) :
    ∀ text ∈ fault.quoted, OneLine text := by
  induction ms generalizing seen r with
  | nil => cases failed
  | cons m rest ih =>
    obtain ⟨k, t⟩ := m
    simp only [readMembers] at failed
    split at failed
    · exact ih failed
    · next field found =>
      have mem := List.mem_of_find?_eq_some found
      split at failed
      · cases failed
        have matched := List.find?_some found
        have named : field.key = k := eq_of_beq matched
        exact List.forall_mem_singleton.2 (named ▸ key field mem)
      · rw [bind_eq_error_iff] at failed
        rcases failed with failed | ⟨change, -, later⟩
        · exact read field mem room t fault failed
        · exact ih later

theorem oneLine_of_readItems {expected : String} (plain : OneLine expected)
    {fields : List (Field R)} (read : ∀ field ∈ fields, field.read.QuotesOneLine)
    {room place : Nat} {ts : List Tree} {r : R} {fault : Fault}
    (failed : readItems expected room place fields ts r = .error fault) :
    ∀ text ∈ fault.quoted, OneLine text := by
  induction fields generalizing place ts r with
  | nil => cases failed
  | cons field rest ih =>
    have later := fun f mem => read f (List.mem_cons_of_mem _ mem)
    cases ts with
    | nil =>
      simp only [readItems] at failed
      split at failed
      · cases failed
        exact List.forall_mem_singleton.2 plain
      · exact ih later failed
    | cons t ts =>
      rw [readItems, bind_eq_error_iff] at failed
      rcases failed with failed | ⟨change, -, failed⟩
      · exact read field List.mem_cons_self room t fault failed
      · exact ih later failed

/-- The faults of a record quote its name, its keys and what its fields quote. -/
theorem quotesOneLine_read {shape : Shape R} (plain : shape.Plain) (origin : Origin) :
    (shape.read origin).QuotesOneLine := by
  intro room t fault failed
  match room, t with
  | room + 1, .object ms =>
    rw [read, bind_eq_error_iff] at failed
    rcases failed with failed | ⟨⟨r, seen⟩, -, failed⟩
    · exact oneLine_of_readMembers plain.key plain.read failed
    · simp only at failed
      split at failed
      · next field found =>
        cases failed
        exact List.forall_mem_singleton.2 (plain.key field (List.mem_of_find?_eq_some found))
      · cases failed
  | room + 1, .torn ms =>
    rw [read, bind_eq_error_iff] at failed
    rcases failed with failed | ⟨result, -, torn⟩
    · exact oneLine_of_readMembers plain.key plain.read failed
    · cases torn
      exact List.forall_mem_nil _
  | room + 1, .array ts =>
    rw [read, bind_eq_error_iff] at failed
    rcases failed with failed | ⟨⟨r, rest⟩, -, failed⟩
    · refine oneLine_of_readItems ?_ plain.read failed
      simp [OneLine, plain.name]
    · simp only at failed
      split at failed
      · cases failed
      · cases failed
        cases origin <;> exact List.forall_mem_nil _
  | 0, .object _ | 0, .torn _ | 0, .array _ =>
    cases failed
    exact List.forall_mem_nil _
  | 0, .null | 0, .bool _ | 0, .number _ | 0, .text _ | 0, .broken
  | room + 1, .null | room + 1, .bool _ | room + 1, .number _ | room + 1, .text _
  | room + 1, .broken =>
    cases failed
    refine Tree.oneLine_of_quoted_misfit ?_ _
    simp [OneLine, plain.name]

end Shape

end Json

end EffectFlow
