import EffectFlow.Json.Fault
import EffectFlow.Json.Parser
import EffectFlow.Json.Value

/-!
# Reading records

A `Reader` takes a tree to a value of some type or to a fault.  Readers of containers also take the
*room*, the number of containers that may still be opened: a text may nest only so many.

A `Shape` describes a record by its fields.  A record is an object or an array of its fields in
order.

* In an object unknown keys are passed over, whatever stands under them.  The first fault in the
  order of the text counts.  Missing fields are noticed last, in the order of the shape.
* In an array fields may be left off at the end if they are not required, and nothing may follow
  the last field.

A torn object is read as far as it goes, so that a fault in front of the tear counts.

`Reader.ofText` reads a whole text.
-/

namespace EffectFlow.Json

/-- Takes a tree to a value or to a fault, given the room for containers. -/
abbrev Reader (α : Type) := (room : Nat) → Tree → Except Fault α

/-- The fault of a tree in the place of something else. -/
def Tree.misfit (t : Tree) (expected : String) : Fault :=
  match t with
  | .broken => .unreadable
  | _ => .wrongType t.found expected

namespace Reader

variable {α β : Type}

/-! ## Leaves -/

/-- Reads a truth value. -/
def bool : Reader Bool
  | _, .bool b => .ok b
  | _, t => .error (t.misfit "a boolean")

/-- Reads a string. -/
def text : Reader String
  | _, .text s => .ok s
  | _, t => .error (t.misfit "a string")

/-- Reads an integer in a range. -/
def integer (least most : Int) (expected : String) : Reader Int
  | _, .number (.integer n h) =>
    if least ≤ n ∧ n ≤ most then .ok n else .error (.wrongValue (.number (.integer n h)) expected)
  | _, t => .error (t.misfit expected)

/-- Reads a signed word. -/
def int64 : Reader Int64 := fun room t =>
  (integer minSigned64 maxSigned64 "i64" room t).map Int64.ofInt

/-- Reads a word of 32 bits. -/
def uint32 : Reader UInt32 := fun room t =>
  (integer 0 (words32 - 1) "u32" room t).map fun n => UInt32.ofNat n.toNat

/-- Reads a place in a list. -/
def index : Reader Nat := fun room t =>
  (integer 0 maxUnsigned64 "usize" room t).map Int.toNat

/-- Reads a double.  Integers are rounded to one. -/
def float : Reader Binary64
  | _, .number n => .ok n.toBinary64
  | _, t => .error (t.misfit "f64")

/-- Reads a value of any shape. -/
def value : Reader Value := fun room t =>
  if t.depth ≤ room then
    match Value.ofTree? t with
    | some v => .ok v
    | none => .error .unreadable
  else .error .unreadable

/-! ## Containers -/

/-- Reads something or `null`. -/
def optional (item : Reader α) : Reader (Option α)
  | _, .null => .ok none
  | room, t => (item room t).map some

/-- Reads the items of an array. -/
def items (item : Tree → Except Fault α) : List Tree → Except Fault (List α)
  | [] => .ok []
  | t :: rest => do
    let x ← item t
    let xs ← items item rest
    .ok (x :: xs)

/-- Reads an array. -/
def list (item : Reader α) : Reader (List α)
  | room + 1, .array ts => items (item room) ts
  | 0, .array _ => .error .unreadable
  | _, t => .error (t.misfit "a sequence")

/-- Reads the members of an object. -/
def members (item : Tree → Except Fault α) :
    List (String × Tree) → Except Fault (List (String × α))
  | [] => .ok []
  | (key, t) :: rest => do
    let x ← item t
    let xs ← members item rest
    .ok ((key, x) :: xs)

/-- Reads an object of any keys.  Of several members with one key the last stays. -/
def dict (item : Reader α) : Reader (Dict α)
  | room + 1, .object ms => (members (item room) ms).map Dict.ofList
  | room + 1, .torn ms => do
    let _ ← members (item room) ms
    .error .unreadable
  | 0, .object _ => .error .unreadable
  | 0, .torn _ => .error .unreadable
  | _, t => .error (t.misfit "a map")

theorem mem_of_members {item : Tree → Except Fault α} {ms : List (String × Tree)}
    {xs : List (String × α)} (h : members item ms = .ok xs) {key : String} {x : α}
    (mem : (key, x) ∈ xs) : ∃ t, (key, t) ∈ ms ∧ item t = .ok x := by
  induction ms generalizing xs with
  | nil =>
    simp only [members, Except.ok.injEq] at h
    subst h
    simp at mem
  | cons m rest ih =>
    obtain ⟨k, t⟩ := m
    simp only [members, bind, Except.bind] at h
    split at h
    · simp at h
    · next y hy =>
      split at h
      · simp at h
      · next ys hys =>
        simp only [Except.ok.injEq] at h
        subst h
        rcases List.mem_cons.1 mem with eq | mem
        · simp only [Prod.mk.injEq] at eq
          exact ⟨t, by simp [eq.1], by rw [hy, eq.2]⟩
        · obtain ⟨u, hu, hread⟩ := ih hys mem
          exact ⟨u, List.mem_cons_of_mem _ hu, hread⟩

/-- The values of a dictionary weigh less than the tree it is read from. -/
theorem weight_lt_of_dict_value {room : Nat} {t : Tree} {d : Dict Value}
    (h : dict value room t = .ok d) {key : String} {v : Value} (hv : d.get? key = some v) :
    v.weight < t.weight := by
  match room, t with
  | room + 1, .object ms =>
    simp only [dict] at h
    cases hms : members (value room) ms with
    | error fault => simp [hms, Except.map] at h
    | ok xs =>
      simp only [hms, Except.map, Except.ok.injEq] at h
      subst h
      obtain ⟨u, hu, hread⟩ := mem_of_members hms (Dict.mem_of_get?_ofList hv)
      have le := Tree.weight_le_of_mem_members hu
      have small : v.weight ≤ u.weight := by
        simp only [value] at hread
        split at hread
        · split at hread
          · next w hw =>
            simp only [Except.ok.injEq] at hread
            exact hread ▸ Value.weight_le_of_ofTree? hw
          · simp at hread
        · simp at hread
      simp only [Tree.weight]
      omega
  | room + 1, .torn ms =>
    simp only [dict, bind, Except.bind] at h
    split at h <;> simp at h
  | 0, .object _ => simp [dict] at h
  | 0, .torn _ => simp [dict] at h
  | _, .null => simp [dict] at h
  | _, .bool _ => simp [dict] at h
  | _, .number _ => simp [dict] at h
  | _, .text _ => simp [dict] at h
  | _, .broken => simp [dict] at h
  | _, .array _ => simp [dict] at h

/-- Reads an array of two. -/
def pair (item : Reader α) : Reader (α × α)
  | 0, .array _ => .error .unreadable
  | room + 1, .array ts => do
    let expected := "an array of length 2"
    match ts with
    | [] => .error (.wrongLength 0 expected)
    | [t] =>
      let _ ← item room t
      .error (.wrongLength 1 expected)
    | t :: u :: rest =>
      let x ← item room t
      let y ← item room u
      if rest.isEmpty then .ok (x, y) else .error .trailing
  | _, t => .error (t.misfit "an array of length 2")

/-- One of a few words. -/
def word (options : List (String × α)) (s : String) : Except Fault α :=
  match options.find? (·.1 == s) with
  | some (_, x) => .ok x
  | none => .error (.unknownVariant s (options.map Prod.fst))

/-- Reads one of a few words.  A word may also be the only key of an object, over `null`. -/
def choice (options : List (String × α)) : Reader α
  | _, .text s => word options s
  | 0, .object _ => .error .unreadable
  | 0, .torn _ => .error .unreadable
  | _ + 1, .object [] => .error .expectedValue
  | _ + 1, .torn [] => .error .unreadable
  | _ + 1, .object ((key, inner) :: rest) => do
    let x ← word options key
    match inner with
    | .null => if rest.isEmpty then .ok x else .error .expectedValue
    | _ => .error (inner.misfit "unit")
  | _ + 1, .torn ((key, inner) :: _) => do
    let _ ← word options key
    match inner with
    | .null => .error .expectedValue
    | _ => .error (inner.misfit "unit")
  | _, .broken => .error .unreadable
  | _, _ => .error .expectedValue

/-- Reads a whole text. -/
def ofText (reader : Reader α) (text : String) : Except ReadError α :=
  let scan := Tree.scan text
  match reader maxDepth scan.tree with
  | .ok x => if scan.grammatical then .ok x else .error ⟨.trailing, false⟩
  | .error fault => .error ⟨fault, scan.grammatical && scan.tree.isReadable⟩

end Reader

/-! ## Records -/

/-- Where a record is read from. -/
inductive Origin where
  /-- A text. -/
  | text
  /-- A value. -/
  | value

/-- The fault of an array of a length with too many items. -/
def Origin.surplus : Origin → (length : Nat) → Fault
  | text, _ => .trailing
  | value, length => .surplus length

/-- A field of a record. -/
structure Field (R : Type) where
  /-- The key. -/
  key : String
  /-- Does every record have the field? -/
  required : Bool
  /-- Reads the field and gives the change to a record. -/
  read : Reader (R → R)

/-- A field, by a reader for its type and a function that sets it. -/
def Field.of {R α : Type} (key : String) (required : Bool) (reader : Reader α)
    (set : α → R → R) : Field R :=
  ⟨key, required, fun room t => (reader room t).map set⟩

/-- The shape of a record. -/
structure Shape (R : Type) where
  /-- The name of the record in messages. -/
  name : String
  /-- A record before any field is read.  It holds the defaults. -/
  blank : R
  /-- The fields, in order. -/
  fields : List (Field R)

namespace Shape

variable {R : Type}

/-- Reads the members of an object, given the keys that were read before. -/
def readMembers (fields : List (Field R)) (room : Nat) :
    List (String × Tree) → List String → R → Except Fault (R × List String)
  | [], seen, r => .ok (r, seen)
  | (key, t) :: rest, seen, r =>
    match fields.find? (·.key == key) with
    | none => readMembers fields room rest seen r
    | some field =>
      if seen.contains key then .error (.duplicateField key)
      else do
        let change ← field.read room t
        readMembers fields room rest (key :: seen) (change r)

/-- Reads the items of an array field by field, and gives the items after the last field. -/
def readItems (expected : String) (room : Nat) :
    Nat → List (Field R) → List Tree → R → Except Fault (R × List Tree)
  | _, [], rest, r => .ok (r, rest)
  | place, field :: fields, [], r =>
    if field.required then .error (.wrongLength place expected)
    else readItems expected room (place + 1) fields [] r
  | place, field :: fields, t :: rest, r => do
    let change ← field.read room t
    readItems expected room (place + 1) fields rest (change r)

/-- Reads a record. -/
def read (shape : Shape R) (origin : Origin) : Reader R
  | room + 1, .object ms => do
    let (r, seen) ← readMembers shape.fields room ms [] shape.blank
    match shape.fields.find? fun field => field.required && !seen.contains field.key with
    | some field => .error (.missingField field.key)
    | none => .ok r
  | room + 1, .torn ms => do
    let _ ← readMembers shape.fields room ms [] shape.blank
    .error .unreadable
  | room + 1, .array ts => do
    let expected :=
      "struct " ++ shape.name ++ " with " ++ toString shape.fields.length ++ " elements"
    let (r, rest) ← readItems expected room 0 shape.fields ts shape.blank
    if rest.isEmpty then .ok r else .error (origin.surplus ts.length)
  | 0, .object _ => .error .unreadable
  | 0, .torn _ => .error .unreadable
  | 0, .array _ => .error .unreadable
  | _, t => .error (t.misfit ("struct " ++ shape.name))

/-! ## What holds of a record that was read -/

/-- What holds of a record at first, and is kept by every field that is read, holds of the record
that members are read into. -/
theorem readMembers_induction {fields : List (Field R)} {room : Nat} {P : R → Prop}
    {ms : List (String × Tree)}
    (step : ∀ field ∈ fields, ∀ m ∈ ms, ∀ change, field.read room m.2 = .ok change →
      ∀ r, P r → P (change r))
    {seen seen' : List String} {r r' : R} (hr : P r)
    (h : readMembers fields room ms seen r = .ok (r', seen')) : P r' := by
  induction ms generalizing seen r with
  | nil =>
    simp only [readMembers, Except.ok.injEq, Prod.mk.injEq] at h
    exact h.1 ▸ hr
  | cons m rest ih =>
    obtain ⟨key, t⟩ := m
    have step' := fun f hf m hm => step f hf m (List.mem_cons_of_mem _ hm)
    simp only [readMembers] at h
    split at h
    · exact ih step' hr h
    · next field found =>
      split at h
      · simp at h
      · cases hread : field.read room t with
        | error e => simp [hread, bind, Except.bind] at h
        | ok change =>
          simp only [hread, bind, Except.bind] at h
          have mem := List.mem_of_find?_eq_some found
          exact ih step' (step field mem (key, t) List.mem_cons_self change hread r hr) h

/-- The same for a record that is read from the items of an array. -/
theorem readItems_induction {expected : String} {room : Nat} {P : R → Prop}
    {fields : List (Field R)} {ts rest : List Tree} {place : Nat} {r r' : R}
    (step : ∀ field ∈ fields, ∀ t ∈ ts, ∀ change, field.read room t = .ok change →
      ∀ r, P r → P (change r))
    (hr : P r) (h : readItems expected room place fields ts r = .ok (r', rest)) : P r' := by
  induction fields generalizing place ts r with
  | nil =>
    simp only [readItems, Except.ok.injEq, Prod.mk.injEq] at h
    exact h.1 ▸ hr
  | cons field fields ih =>
    cases ts with
    | nil =>
      simp only [readItems] at h
      split at h
      · simp at h
      · exact ih (by simp) hr h
    | cons t ts =>
      simp only [readItems] at h
      cases hread : field.read room t with
      | error e => simp [hread, bind, Except.bind] at h
      | ok change =>
        simp only [hread, bind, Except.bind] at h
        exact ih (fun f hf u hu => step f (List.mem_cons_of_mem _ hf) u (List.mem_cons_of_mem _ hu))
          (step field List.mem_cons_self t List.mem_cons_self change hread r hr) h

/-- A property of the blank record that every field keeps holds of the record.  The fields are read
from pieces that are lighter than the whole, with less room. -/
theorem read_induction {shape : Shape R} {origin : Origin} {room : Nat} {t : Tree} {r : R}
    {P : R → Prop} (blank : P shape.blank)
    (step : ∀ field ∈ shape.fields, ∀ inner < room, ∀ u, u.weight < t.weight → ∀ change,
      field.read inner u = .ok change → ∀ r, P r → P (change r))
    (h : shape.read origin room t = .ok r) : P r := by
  match room, t with
  | room + 1, .object ms =>
    simp only [read, bind, Except.bind] at h
    split at h
    · simp at h
    · next result hread =>
      have key : P result.1 := readMembers_induction (fun f hf m hm change hc r hr =>
        step f hf room (Nat.lt_succ_self room) m.2 (by
          have := Tree.weight_le_of_mem_members (show (m.1, m.2) ∈ ms from hm)
          simp only [Tree.weight]; omega) change hc r hr) blank hread
      split at h
      · simp at h
      · simp only [Except.ok.injEq] at h
        exact h ▸ key
  | room + 1, .array ts =>
    simp only [read, bind, Except.bind] at h
    split at h
    · simp at h
    · next result hread =>
      have key : P result.1 := readItems_induction (fun f hf u hu change hc r hr =>
        step f hf room (Nat.lt_succ_self room) u (by
          have := Tree.weight_le_of_mem_items hu
          simp only [Tree.weight]; omega) change hc r hr) blank hread
      split at h
      · simp only [Except.ok.injEq] at h
        exact h ▸ key
      · simp at h
  | room + 1, .torn ms =>
    simp only [read, bind, Except.bind] at h
    split at h <;> simp at h
  | 0, .object _ => simp [read] at h
  | 0, .torn _ => simp [read] at h
  | 0, .array _ => simp [read] at h
  | _, .null => simp [read] at h
  | _, .bool _ => simp [read] at h
  | _, .number _ => simp [read] at h
  | _, .text _ => simp [read] at h
  | _, .broken => simp [read] at h

end Shape

end EffectFlow.Json
