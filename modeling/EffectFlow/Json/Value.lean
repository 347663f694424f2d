import EffectFlow.Dict
import EffectFlow.Json.Parser
import EffectFlow.Json.Printer

/-!
# JSON values

A *value* is a tree in normal form: the members of every object are in ascending order of their
keys, no key stands twice, and nothing is broken or torn.  So equal values are equal trees.

* `Value.view` takes a value apart and `Value.array`, `Value.object` and the others build one.
* `Value.ofTree?` brings a tree into normal form; of several members with one key the last stays.
  It gives a value back unchanged (`Value.ofTree?_tree`).
-/

namespace EffectFlow.Json

/-! ## Normal form -/

namespace Tree

mutual

/-- The members of every object ascend strictly, and nothing is broken or torn. -/
def Normal : Tree → Prop
  | broken => False
  | torn _ => False
  | array items => NormalItems items
  | object members => Ascending members ∧ NormalMembers members
  | _ => True
termination_by structural t => t

/-- Every item is in normal form. -/
def NormalItems : List Tree → Prop
  | [] => True
  | t :: rest => Normal t ∧ NormalItems rest
termination_by structural ts => ts

/-- The tree of every member is in normal form. -/
def NormalMembers : List (String × Tree) → Prop
  | [] => True
  | (_, t) :: rest => Normal t ∧ NormalMembers rest
termination_by structural ms => ms

end

theorem normalItems_iff {items : List Tree} : NormalItems items ↔ ∀ t ∈ items, t.Normal := by
  induction items with
  | nil => simp [NormalItems]
  | cons t rest ih => simp [NormalItems, ih]

theorem normalMembers_iff {members : List (String × Tree)} :
    NormalMembers members ↔ ∀ m ∈ members, m.2.Normal := by
  induction members with
  | nil => simp [NormalMembers]
  | cons m rest ih => obtain ⟨k, t⟩ := m; simp [NormalMembers, ih]

end Tree

/-- A tree in normal form. -/
structure Value where
  /-- The tree. -/
  tree : Tree
  /-- It is in normal form. -/
  normal : tree.Normal
deriving DecidableEq

namespace Value

/-! ## Building values -/

/-- The word `null`. -/
def null : Value := ⟨.null, trivial⟩

/-- A truth value. -/
def bool (b : Bool) : Value := ⟨.bool b, trivial⟩

/-- A number. -/
def number (n : Number) : Value := ⟨.number n, trivial⟩

/-- A text. -/
def text (s : String) : Value := ⟨.text s, trivial⟩

/-- An array. -/
def array (items : List Value) : Value :=
  ⟨.array (items.map tree), Tree.normalItems_iff.2 fun t h => by
    obtain ⟨v, _, rfl⟩ := List.mem_map.1 h
    exact v.normal⟩

/-- An object. -/
def object (members : Dict Value) : Value :=
  ⟨.object (members.map tree).entries, (members.map tree).ascending,
    Tree.normalMembers_iff.2 fun m h => by
      obtain ⟨e, _, rfl⟩ := List.mem_map.1 h
      exact e.2.normal⟩

/-- An object of a list of members; the last value of a key stays. -/
def ofMembers (members : List (String × Value)) : Value := object (Dict.ofList members)

/-- A signed word. -/
def int64 (n : Int64) : Value := number (.ofInt64 n)

instance : Inhabited Value := ⟨null⟩

/-! ## Taking values apart -/

/-- The items of an array in normal form. -/
def itemsOf (items : List Tree) (h : Tree.NormalItems items) : List Value :=
  items.pmap Value.mk (Tree.normalItems_iff.1 h)

/-- The members of an object in normal form. -/
def membersOf (members : List (String × Tree)) (h : Ascending members)
    (h' : Tree.NormalMembers members) : Dict Value where
  entries := members.pmap (fun m hm => (m.1, ⟨m.2, hm⟩)) (Tree.normalMembers_iff.1 h')
  ascending := by
    rw [Ascending, List.pairwise_pmap]
    exact h.imp fun lt _ _ => lt

/-- A value taken apart. -/
inductive View where
  /-- The word `null`. -/
  | null
  /-- A truth value. -/
  | bool (b : Bool)
  /-- A number. -/
  | number (n : Number)
  /-- A text. -/
  | text (s : String)
  /-- An array. -/
  | array (items : List Value)
  /-- An object. -/
  | object (members : Dict Value)

/-- Takes a value apart. -/
def view : Value → View
  | ⟨.null, _⟩ => .null
  | ⟨.bool b, _⟩ => .bool b
  | ⟨.number n, _⟩ => .number n
  | ⟨.text s, _⟩ => .text s
  | ⟨.array items, h⟩ => .array (itemsOf items h)
  | ⟨.object members, h⟩ => .object (membersOf members h.1 h.2)

/-- The value of a view. -/
def ofView : View → Value
  | .null => null
  | .bool b => bool b
  | .number n => number n
  | .text s => text s
  | .array items => array items
  | .object members => object members

theorem map_tree_itemsOf (items : List Tree) (h : Tree.NormalItems items) :
    (itemsOf items h).map tree = items := by
  simp [itemsOf, List.map_pmap]

theorem map_tree_membersOf (members : List (String × Tree)) (h : Ascending members)
    (h' : Tree.NormalMembers members) : ((membersOf members h h').map tree).entries = members := by
  simp [membersOf, Dict.map, List.map_pmap]

theorem tree_injective {v w : Value} (h : v.tree = w.tree) : v = w := by
  cases v; cases w; simp_all

theorem array_itemsOf (items : List Tree) (h : Tree.NormalItems items) :
    array (itemsOf items h) = ⟨.array items, h⟩ :=
  tree_injective (congrArg Tree.array (map_tree_itemsOf items h))

theorem object_membersOf (members : List (String × Tree)) (h : Ascending members)
    (h' : Tree.NormalMembers members) :
    object (membersOf members h h') = ⟨.object members, h, h'⟩ :=
  tree_injective (congrArg Tree.object (map_tree_membersOf members h h'))

theorem ofView_view (v : Value) : ofView v.view = v := by
  obtain ⟨t, h⟩ := v
  cases t with
  | broken => exact h.elim
  | torn _ => exact h.elim
  | array items => exact array_itemsOf items h
  | object members => exact object_membersOf members h.1 h.2
  | _ => rfl

@[simp] theorem view_null : null.view = .null := rfl
@[simp] theorem view_bool (b : Bool) : (bool b).view = .bool b := rfl
@[simp] theorem view_number (n : Number) : (number n).view = .number n := rfl
@[simp] theorem view_text (s : String) : (text s).view = .text s := rfl

@[simp] theorem view_array (items : List Value) : (array items).view = .array items := by
  have h : itemsOf (items.map tree) (array items).normal = items := by
    refine (List.map_inj_right fun v w h => tree_injective h).1 ?_
    exact map_tree_itemsOf _ _
  exact congrArg View.array h

@[simp] theorem view_object (members : Dict Value) : (object members).view = .object members := by
  have h : membersOf (members.map tree).entries (members.map tree).ascending
      (object members).normal.2 = members := by
    have key := map_tree_membersOf (members.map tree).entries (members.map tree).ascending
      (object members).normal.2
    cases members with
    | mk entries asc =>
      simp only [Dict.map] at key ⊢
      have inj := (List.map_inj_right (f := fun e : String × Value => (e.1, e.2.tree))
        fun a b h => by
          simp only [Prod.mk.injEq] at h
          exact Prod.ext h.1 (tree_injective h.2)).1 key
      cases hm : membersOf _ _ _ with
      | mk e a => simp_all
  exact congrArg View.object h

/-- The text of a value that is one. -/
def text? (v : Value) : Option String :=
  match v.view with
  | .text s => some s
  | _ => none

/-- The number of a value that is one. -/
def number? (v : Value) : Option Number :=
  match v.view with
  | .number n => some n
  | _ => none

/-- The members of a value that is an object. -/
def members? (v : Value) : Option (Dict Value) :=
  match v.view with
  | .object members => some members
  | _ => none

/-! ## Values of trees -/

mutual

/-- The value of a tree, if nothing is broken or torn.  Of several members with one key the last
stays. -/
def ofTree? : Tree → Option Value
  | .null => some null
  | .bool b => some (bool b)
  | .number n => some (number n)
  | .text s => some (text s)
  | .broken => none
  | .torn _ => none
  | .array items => (ofItems? items).map array
  | .object members => (ofTreeMembers? members).map ofMembers
termination_by structural t => t

/-- The values of the items. -/
def ofItems? : List Tree → Option (List Value)
  | [] => some []
  | t :: rest => do
    let v ← ofTree? t
    let vs ← ofItems? rest
    some (v :: vs)
termination_by structural ts => ts

/-- The values of the members. -/
def ofTreeMembers? : List (String × Tree) → Option (List (String × Value))
  | [] => some []
  | (key, t) :: rest => do
    let v ← ofTree? t
    let vs ← ofTreeMembers? rest
    some ((key, v) :: vs)
termination_by structural ms => ms

end

mutual

theorem ofTree?_eq_some_of_normal : ∀ (t : Tree) (h : t.Normal), ofTree? t = some ⟨t, h⟩
  | .null, _ => rfl
  | .bool _, _ => rfl
  | .number _, _ => rfl
  | .text _, _ => rfl
  | .array items, h => by
    have := ofItems?_eq_some_of_normal items h
    rw [ofTree?, this]
    exact congrArg some (array_itemsOf items h)
  | .object members, h => by
    have := ofTreeMembers?_eq_some_of_normal members h.1 h.2
    rw [ofTree?, this, Option.map_some, ofMembers, Dict.ofList_entries]
    exact congrArg some (object_membersOf members h.1 h.2)

theorem ofItems?_eq_some_of_normal : ∀ (items : List Tree) (h : Tree.NormalItems items),
    ofItems? items = some (itemsOf items h)
  | [], _ => rfl
  | t :: rest, h => by
    simp [ofItems?, ofTree?_eq_some_of_normal t h.1, ofItems?_eq_some_of_normal rest h.2, itemsOf]

theorem ofTreeMembers?_eq_some_of_normal : ∀ (members : List (String × Tree))
    (asc : Ascending members) (h : Tree.NormalMembers members),
    ofTreeMembers? members = some (membersOf members asc h).entries
  | [], _, _ => rfl
  | (key, t) :: rest, asc, h => by
    simp [ofTreeMembers?, ofTree?_eq_some_of_normal t h.1,
      ofTreeMembers?_eq_some_of_normal rest (List.Pairwise.of_cons asc) h.2, membersOf]

end

/-- A value is its own normal form. -/
theorem ofTree?_tree (v : Value) : ofTree? v.tree = some v :=
  ofTree?_eq_some_of_normal v.tree v.normal

/-! ## Size -/

/-- The number of pieces of a value. -/
def weight (v : Value) : Nat := v.tree.weight

/-- The items of an array weigh less than the array. -/
theorem weight_lt_of_mem_items {v w : Value} {items : List Value} (hv : v.view = .array items)
    (h : w ∈ items) : w.weight < v.weight := by
  have eq := ofView_view v
  rw [hv] at eq
  subst eq
  have := Tree.weight_le_of_mem_items (List.mem_map_of_mem (f := tree) h)
  simp only [weight, ofView, array, Tree.weight]
  omega

/-- Insertion adds no more than the weight of the new value. -/
theorem weightMembers_insert_le (key : String) (t : Tree) (members : List (String × Tree)) :
    Tree.weightMembers (Entries.insert key t members) ≤ t.weight + Tree.weightMembers members := by
  induction members with
  | nil => simp [Entries.insert, Tree.weightMembers]
  | cons m rest ih =>
    obtain ⟨k, u⟩ := m
    simp only [Entries.insert]
    split
    · simp [Tree.weightMembers]
    · split <;> simp only [Tree.weightMembers] <;> omega

theorem map_insert (key : String) (v : Value) (entries : List (String × Value)) :
    (Entries.insert key v entries).map (fun e => (e.1, e.2.tree)) =
      Entries.insert key v.tree (entries.map fun e => (e.1, e.2.tree)) := by
  induction entries with
  | nil => rfl
  | cons e rest ih =>
    obtain ⟨k, u⟩ := e
    simp only [Entries.insert, List.map_cons]
    split
    · rfl
    · split
      · rfl
      · simp [ih]

/-- So a dictionary weighs no more than the entries it is made of. -/
theorem weightMembers_foldl_insert_le (entries : List (String × Value)) (d : Dict Value) :
    Tree.weightMembers ((entries.foldl (fun d e => d.insert e.1 e.2) d).map tree).entries ≤
      Tree.weightMembers (entries.map fun e => (e.1, e.2.tree)) +
        Tree.weightMembers (d.map tree).entries := by
  induction entries generalizing d with
  | nil => simp [Tree.weightMembers]
  | cons e rest ih =>
    have step := ih (d.insert e.1 e.2)
    have one := weightMembers_insert_le e.1 e.2.tree (d.entries.map fun e => (e.1, e.2.tree))
    simp only [List.foldl_cons, List.map_cons, Tree.weightMembers]
    simp only [Dict.insert, Dict.map, map_insert] at step one ⊢
    omega

mutual

/-- Bringing a tree into normal form adds nothing. -/
theorem weight_le_of_ofTree? : ∀ {t : Tree} {v : Value}, ofTree? t = some v → v.weight ≤ t.weight
  | .null, v, h => by cases h; exact Nat.le_refl _
  | .bool _, v, h => by cases h; exact Nat.le_refl _
  | .number _, v, h => by cases h; exact Nat.le_refl _
  | .text _, v, h => by cases h; exact Nat.le_refl _
  | .broken, v, h => by simp [ofTree?] at h
  | .torn _, v, h => by simp [ofTree?] at h
  | .array items, v, h => by
    simp only [ofTree?, Option.map_eq_some_iff] at h
    obtain ⟨vs, hvs, rfl⟩ := h
    have := weightItems_le_of_ofItems? hvs
    simp only [weight, array, Tree.weight]
    omega
  | .object members, v, h => by
    simp only [ofTree?, Option.map_eq_some_iff] at h
    obtain ⟨vs, hvs, rfl⟩ := h
    have le := weightMembers_le_of_ofTreeMembers? hvs
    have fold := weightMembers_foldl_insert_le vs Dict.empty
    simp only [weight, ofMembers, object, Tree.weight, Dict.ofList]
    simp only [Dict.empty, Dict.map, List.map_nil, Tree.weightMembers] at fold ⊢
    omega

theorem weightItems_le_of_ofItems? : ∀ {items : List Tree} {vs : List Value},
    ofItems? items = some vs → Tree.weightItems (vs.map tree) ≤ Tree.weightItems items
  | [], vs, h => by cases h; exact Nat.le_refl _
  | t :: rest, vs, h => by
    simp only [ofItems?, Option.bind_eq_bind, Option.bind_eq_some_iff] at h
    obtain ⟨v, hv, us, hus, eq⟩ := h
    cases eq
    have one := weight_le_of_ofTree? hv
    have more := weightItems_le_of_ofItems? hus
    simp only [List.map_cons, Tree.weightItems]
    simp only [weight] at one
    omega

theorem weightMembers_le_of_ofTreeMembers? : ∀ {members : List (String × Tree)}
    {vs : List (String × Value)}, ofTreeMembers? members = some vs →
    Tree.weightMembers (vs.map fun e => (e.1, e.2.tree)) ≤ Tree.weightMembers members
  | [], vs, h => by cases h; exact Nat.le_refl _
  | (key, t) :: rest, vs, h => by
    simp only [ofTreeMembers?, Option.bind_eq_bind, Option.bind_eq_some_iff] at h
    obtain ⟨v, hv, us, hus, eq⟩ := h
    cases eq
    have one := weight_le_of_ofTree? hv
    have more := weightMembers_le_of_ofTreeMembers? hus
    simp only [List.map_cons, Tree.weightMembers]
    simp only [weight] at one
    omega

end

/-! ## Texts -/

/-- A value without blanks. -/
def compact (v : Value) : String := String.ofList v.tree.compact

/-- The value of a text, if it is JSON that is not nested too deeply. -/
def ofText? (text : String) : Option Value :=
  match Tree.parse? text with
  | some t => if t.depth ≤ maxDepth then ofTree? t else none
  | none => none

end Value

end EffectFlow.Json
