import EffectFlow.Json.Number

/-!
# JSON syntax trees

A `Tree` is as much of a JSON text as can be read, without its blanks.  The members of an object
stand in the order of the text, and a key may stand more than once.

Some texts have no value.  A number may be too large for a double, a string may hold half of a
surrogate pair, and a text may leave the grammar or end too early.  What has no value becomes the
leaf `broken`.  An object is *torn* where no further key can be read, and keeps the members before.
So the tree shows what stands in front of the first thing that is wrong.

* `Tree.weight` counts the pieces of a tree and bounds the recursions on it.
* `Tree.depth` is the number of containers that are nested in each other.
* `Tree.beq_iff` decides equality.
-/

namespace EffectFlow.Json

/-- As much of a JSON text as can be read. -/
inductive Tree where
  /-- The word `null`. -/
  | null
  /-- The words `true` and `false`. -/
  | bool (b : Bool)
  /-- A number. -/
  | number (n : Number)
  /-- A string. -/
  | text (s : String)
  /-- Something that has no value. -/
  | broken
  /-- An array. -/
  | array (items : List Tree)
  /-- An object, with its members in the order of the text. -/
  | object (members : List (String × Tree))
  /-- The members of an object in front of a key that cannot be read. -/
  | torn (members : List (String × Tree))

namespace Tree

instance : Inhabited Tree := ⟨null⟩

/-! ## Leaves of other types -/

/-- Something or `null`. -/
def ofOption {α : Type} (f : α → Tree) : Option α → Tree
  | some x => f x
  | none => .null

/-- The tree of a signed word. -/
def int64 (n : Int64) : Tree := .number (.ofInt64 n)

/-- The tree of a word of 32 bits. -/
def uint32 (n : UInt32) : Tree :=
  .number (.ofNat n.toNat (Nat.le_trans (Nat.le_of_lt n.toNat_lt) (by decide)))

/-- The tree of a double. -/
def float (x : Binary64) : Tree := .number (.float x)

/-! ## Size -/

mutual

/-- The number of pieces of a tree. -/
def weight : Tree → Nat
  | array items => 1 + weightItems items
  | object members => 1 + weightMembers members
  | torn members => 1 + weightMembers members
  | _ => 1
termination_by structural t => t

/-- The number of pieces of the items of an array. -/
def weightItems : List Tree → Nat
  | [] => 0
  | t :: rest => weight t + weightItems rest
termination_by structural ts => ts

/-- The number of pieces of the members of an object. -/
def weightMembers : List (String × Tree) → Nat
  | [] => 0
  | (_, t) :: rest => weight t + weightMembers rest
termination_by structural ms => ms

end

theorem weight_le_of_mem_items {t : Tree} {items : List Tree} (h : t ∈ items) :
    t.weight ≤ weightItems items := by
  induction items with
  | nil => simp at h
  | cons u rest ih =>
    simp only [weightItems]
    rcases List.mem_cons.1 h with rfl | h
    · omega
    · have := ih h; omega

theorem weight_le_of_mem_members {key : String} {t : Tree} {members : List (String × Tree)}
    (h : (key, t) ∈ members) : t.weight ≤ weightMembers members := by
  induction members with
  | nil => simp at h
  | cons m rest ih =>
    obtain ⟨k, u⟩ := m
    simp only [weightMembers]
    rcases List.mem_cons.1 h with eq | h
    · simp only [Prod.mk.injEq] at eq
      rw [eq.2]
      omega
    · have := ih h; omega

mutual

/-- The number of containers that are nested in each other. -/
def depth : Tree → Nat
  | array items => 1 + depthItems items
  | object members => 1 + depthMembers members
  | torn members => 1 + depthMembers members
  | _ => 0
termination_by structural t => t

/-- The depth of the deepest item. -/
def depthItems : List Tree → Nat
  | [] => 0
  | t :: rest => max (depth t) (depthItems rest)
termination_by structural ts => ts

/-- The depth of the deepest member. -/
def depthMembers : List (String × Tree) → Nat
  | [] => 0
  | (_, t) :: rest => max (depth t) (depthMembers rest)
termination_by structural ms => ms

end

/-! ## Equality -/

mutual

/-- Are two trees the same? -/
def beq : Tree → Tree → Bool
  | null, null => true
  | bool a, bool b => a == b
  | number a, number b => a == b
  | text a, text b => a == b
  | broken, broken => true
  | array a, array b => beqItems a b
  | object a, object b => beqMembers a b
  | torn a, torn b => beqMembers a b
  | _, _ => false
termination_by structural t => t

/-- Are two lists of items the same? -/
def beqItems : List Tree → List Tree → Bool
  | [], [] => true
  | a :: as, b :: bs => beq a b && beqItems as bs
  | _, _ => false
termination_by structural ts => ts

/-- Are two lists of members the same? -/
def beqMembers : List (String × Tree) → List (String × Tree) → Bool
  | [], [] => true
  | (j, a) :: as, (k, b) :: bs => j == k && beq a b && beqMembers as bs
  | _, _ => false
termination_by structural ms => ms

end

mutual

theorem beq_iff : ∀ {a b : Tree}, beq a b = true ↔ a = b
  | null, b => by cases b <;> simp [beq]
  | bool _, b => by cases b <;> simp [beq]
  | number _, b => by cases b <;> simp [beq]
  | text _, b => by cases b <;> simp [beq]
  | broken, b => by cases b <;> simp [beq]
  | array _, b => by cases b <;> simp [beq, beqItems_iff]
  | object _, b => by cases b <;> simp [beq, beqMembers_iff]
  | torn _, b => by cases b <;> simp [beq, beqMembers_iff]

theorem beqItems_iff : ∀ {a b : List Tree}, beqItems a b = true ↔ a = b
  | [], b => by cases b <;> simp [beqItems]
  | _ :: _, b => by cases b <;> simp [beqItems, beq_iff, beqItems_iff]

theorem beqMembers_iff : ∀ {a b : List (String × Tree)}, beqMembers a b = true ↔ a = b
  | [], b => by cases b <;> simp [beqMembers]
  | (_, _) :: _, [] => by simp [beqMembers]
  | (_, _) :: _, (_, _) :: _ => by simp [beqMembers, beq_iff, beqMembers_iff]

end

instance : DecidableEq Tree := fun a b => decidable_of_iff (beq a b = true) beq_iff

/-! ## Values -/

mutual

/-- Does every piece of the tree have a value? -/
def isWhole : Tree → Bool
  | broken => false
  | torn _ => false
  | array items => isWholeItems items
  | object members => isWholeMembers members
  | _ => true
termination_by structural t => t

/-- Does every piece of the items have a value? -/
def isWholeItems : List Tree → Bool
  | [] => true
  | t :: rest => isWhole t && isWholeItems rest
termination_by structural ts => ts

/-- Does every piece of the members have a value? -/
def isWholeMembers : List (String × Tree) → Bool
  | [] => true
  | (_, t) :: rest => isWhole t && isWholeMembers rest
termination_by structural ms => ms

end

end Tree

/-- The number of containers that may be nested in a text. -/
def maxDepth : Nat := 127

/-- Is the tree one that a text may stand for: not too deep, and with a value throughout? -/
def Tree.isReadable (t : Tree) : Bool := decide (t.depth ≤ maxDepth) && t.isWhole

end EffectFlow.Json
