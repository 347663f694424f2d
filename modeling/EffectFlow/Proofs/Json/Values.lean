import EffectFlow.Json.Record
import EffectFlow.Proofs.Json.Spelling

/-!
# Values that read back

A value whose numbers read back is read back from its compact text, if it is not nested too deeply
(`Value.ofText?_compact`).  Every value that was read from a text is nested no deeper than a text
may be (`Value.depth_le_of_ofText?`), because bringing a tree into normal form does not deepen it
(`Value.depth_le_of_ofTree?`).  Integers always read back
(`Tree.numbersReadBack_of_onlyIntegers`).
-/

namespace EffectFlow.Json

/-! ## Normal trees are whole -/

namespace Tree

mutual

/-- Every piece of a normal tree has a value. -/
theorem isWhole_of_normal : ∀ {t : Tree}, t.Normal → t.isWhole = true
  | .null, _ => rfl
  | .bool _, _ => rfl
  | .number _, _ => rfl
  | .text _, _ => rfl
  | .broken, h => h.elim
  | .torn _, h => h.elim
  | .array items, h => isWholeItems_of_normal (show NormalItems items from h)
  | .object members, h => isWholeMembers_of_normal (show NormalMembers members from h.2)

theorem isWholeItems_of_normal : ∀ {items : List Tree}, NormalItems items →
    isWholeItems items = true
  | [], _ => rfl
  | t :: rest, h => by
    rw [isWholeItems, isWhole_of_normal h.1, isWholeItems_of_normal h.2]
    rfl

theorem isWholeMembers_of_normal : ∀ {members : List (String × Tree)}, NormalMembers members →
    isWholeMembers members = true
  | [], _ => rfl
  | (key, t) :: rest, h => by
    rw [isWholeMembers, isWhole_of_normal h.1, isWholeMembers_of_normal h.2]
    rfl

end

theorem isWholeItems_iff {items : List Tree} :
    isWholeItems items = true ↔ ∀ t ∈ items, t.isWhole = true := by
  induction items with
  | nil => simp [isWholeItems]
  | cons t rest ih => rw [isWholeItems, Bool.and_eq_true, ih, List.forall_mem_cons]

theorem isWholeMembers_iff {members : List (String × Tree)} :
    isWholeMembers members = true ↔ ∀ m ∈ members, m.2.isWhole = true := by
  induction members with
  | nil => simp [isWholeMembers]
  | cons m rest ih =>
    obtain ⟨key, t⟩ := m
    rw [isWholeMembers, Bool.and_eq_true, ih, List.forall_mem_cons]

/-! ## Depth -/

theorem depthItems_le_iff {items : List Tree} {n : Nat} :
    depthItems items ≤ n ↔ ∀ t ∈ items, t.depth ≤ n := by
  induction items with
  | nil => simp [depthItems]
  | cons t rest ih => rw [depthItems, Nat.max_le, ih, List.forall_mem_cons]

theorem depthMembers_le_iff {members : List (String × Tree)} {n : Nat} :
    depthMembers members ≤ n ↔ ∀ m ∈ members, m.2.depth ≤ n := by
  induction members with
  | nil => simp [depthMembers]
  | cons m rest ih =>
    obtain ⟨key, t⟩ := m
    rw [depthMembers, Nat.max_le, ih, List.forall_mem_cons]

end Tree

namespace Value

/-! ## Values with a view -/

theorem eq_text_of_view {v : Value} {s : String} (h : v.view = .text s) : v = .text s := by
  have shape := ofView_view v
  rw [h] at shape
  exact shape.symm

theorem eq_text_of_text? {v : Value} {s : String} (h : v.text? = some s) : v = .text s := by
  rw [text?] at h
  split at h
  · next view =>
    cases h
    exact eq_text_of_view view
  · cases h

@[simp] theorem members?_object (members : Dict Value) :
    (object members).members? = some members := by
  rw [members?, view_object]

theorem eq_object_of_members? {v : Value} {members : Dict Value} (h : v.members? = some members) :
    v = .object members := by
  have shape := ofView_view v
  rw [members?] at h
  split at h
  · next view =>
    cases h
    rw [view] at shape
    exact shape.symm
  · cases h

/-! ## Depth of values -/

/-- The members of an object are nested one container deep. -/
theorem depth_object_le_iff {members : Dict Value} {n : Nat} :
    (object members).tree.depth ≤ n + 1 ↔ ∀ e ∈ members.entries, e.2.tree.depth ≤ n := by
  have shift : (object members).tree.depth ≤ n + 1 ↔
      Tree.depthMembers (members.map tree).entries ≤ n := by
    show 1 + Tree.depthMembers (members.map tree).entries ≤ n + 1 ↔ _
    omega
  rw [shift, Tree.depthMembers_le_iff]
  constructor
  · intro h e he
    exact h (e.1, e.2.tree) (List.mem_map_of_mem (f := fun e => (e.1, e.2.tree)) he)
  · intro h m hm
    obtain ⟨e, he, rfl⟩ := List.mem_map.1 hm
    exact h e he

/-- The items of an array are nested one container deep. -/
theorem depth_array_le_iff {items : List Value} {n : Nat} :
    (array items).tree.depth ≤ n + 1 ↔ ∀ v ∈ items, v.tree.depth ≤ n := by
  have shift : (array items).tree.depth ≤ n + 1 ↔ Tree.depthItems (items.map tree) ≤ n := by
    show 1 + Tree.depthItems (items.map tree) ≤ n + 1 ↔ _
    omega
  rw [shift, Tree.depthItems_le_iff]
  simp

theorem depth_ofMembers_le {members : List (String × Value)} {n : Nat}
    (h : ∀ m ∈ members, m.2.tree.depth ≤ n) : (ofMembers members).tree.depth ≤ n + 1 := by
  refine depth_object_le_iff.2 fun e he => ?_
  have found : (Dict.ofList members).get? e.1 = some e.2 := Dict.get?_eq_some_iff.2 he
  exact h (e.1, e.2) (Dict.mem_of_get?_ofList found)

mutual

/-- Bringing a tree into normal form does not deepen it. -/
theorem depth_le_of_ofTree? : ∀ {t : Tree} {v : Value}, ofTree? t = some v →
    v.tree.depth ≤ t.depth
  | .null, v, h => by cases h; exact Nat.le_refl _
  | .bool _, v, h => by cases h; exact Nat.le_refl _
  | .number _, v, h => by cases h; exact Nat.le_refl _
  | .text _, v, h => by cases h; exact Nat.le_refl _
  | .broken, v, h => by cases h
  | .torn _, v, h => by cases h
  | .array items, v, h => by
    obtain ⟨vs, read, rfl⟩ := Option.map_eq_some_iff.1 h
    rw [Tree.depth, Nat.add_comm]
    exact depth_array_le_iff.2 fun v hv => Nat.le_trans
      (Tree.depthItems_le_iff.1 (depthItems_le_of_ofItems? read) v.tree (List.mem_map_of_mem hv))
      (Nat.le_refl _)
  | .object members, v, h => by
    obtain ⟨vs, read, rfl⟩ := Option.map_eq_some_iff.1 h
    rw [Tree.depth, Nat.add_comm]
    exact depth_ofMembers_le fun m hm => depthMembers_le_of_ofTreeMembers? read m hm

theorem depthItems_le_of_ofItems? : ∀ {items : List Tree} {vs : List Value},
    ofItems? items = some vs → Tree.depthItems (vs.map tree) ≤ Tree.depthItems items
  | [], vs, h => by cases h; exact Nat.le_refl _
  | t :: rest, vs, h => by
    simp only [ofItems?, Option.bind_eq_bind, Option.bind_eq_some_iff] at h
    obtain ⟨v, readHead, us, readRest, eq⟩ := h
    cases eq
    have one := depth_le_of_ofTree? readHead
    have more := depthItems_le_of_ofItems? readRest
    simp only [List.map_cons, Tree.depthItems]
    omega

theorem depthMembers_le_of_ofTreeMembers? : ∀ {members : List (String × Tree)}
    {vs : List (String × Value)}, ofTreeMembers? members = some vs →
      ∀ m ∈ vs, m.2.tree.depth ≤ Tree.depthMembers members
  | [], vs, h => by
    cases h
    intro m hm
    cases hm
  | (key, t) :: rest, vs, h => by
    simp only [ofTreeMembers?, Option.bind_eq_bind, Option.bind_eq_some_iff] at h
    obtain ⟨v, readHead, us, readRest, eq⟩ := h
    cases eq
    have one := depth_le_of_ofTree? readHead
    have more := depthMembers_le_of_ofTreeMembers? readRest
    intro m hm
    rw [Tree.depthMembers]
    rcases List.mem_cons.1 hm with rfl | hm
    · exact Nat.le_trans one (Nat.le_max_left _ _)
    · exact Nat.le_trans (more m hm) (Nat.le_max_right _ _)

end

/-! ## Texts of values -/

/-- A value that is read from a text is nested no deeper than a text may be. -/
theorem depth_le_of_ofText? {s : String} {v : Value} (h : ofText? s = some v) :
    v.tree.depth ≤ maxDepth := by
  simp only [ofText?] at h
  split at h
  · split at h
    · next shallow => exact Nat.le_trans (depth_le_of_ofTree? h) shallow
    · cases h
  · cases h

/-- From its compact text a value is read back, unless it is nested too deeply. -/
theorem ofText?_compact_eq_ite {v : Value} (back : v.tree.NumbersReadBack) :
    ofText? v.compact = if v.tree.depth ≤ maxDepth then some v else none := by
  have scanned := scan_compact (Tree.isWhole_of_normal v.normal) back
  have parsed : Tree.parse? v.compact = some v.tree := by
    simp [Tree.parse?, compact, scanned]
  simp [ofText?, parsed, ofTree?_tree]

/-- A value is read back from its compact text. -/
theorem ofText?_compact {v : Value} (back : v.tree.NumbersReadBack)
    (shallow : v.tree.depth ≤ maxDepth) : ofText? v.compact = some v := by
  rw [ofText?_compact_eq_ite back, if_pos shallow]

end Value

/-! ## Integers -/

/-- Is the number an integer of 64 bits? -/
def Number.isInteger : Number → Bool
  | integer _ _ => true
  | float _ => false

/-- An integer is read back from its text. -/
theorem Number.readsBack_of_isInteger {n : Number} (h : n.isInteger = true) : n.ReadsBack := by
  cases n with
  | integer n fits => exact readsBack_integer n fits
  | float x => cases h

namespace Tree

mutual

/-- Are all numbers of the tree integers? -/
def onlyIntegers : Tree → Bool
  | number n => n.isInteger
  | array items => onlyIntegersItems items
  | object members => onlyIntegersMembers members
  | torn members => onlyIntegersMembers members
  | _ => true
termination_by structural t => t

/-- Are all numbers of the items integers? -/
def onlyIntegersItems : List Tree → Bool
  | [] => true
  | t :: rest => onlyIntegers t && onlyIntegersItems rest
termination_by structural ts => ts

/-- Are all numbers of the members integers? -/
def onlyIntegersMembers : List (String × Tree) → Bool
  | [] => true
  | (_, t) :: rest => onlyIntegers t && onlyIntegersMembers rest
termination_by structural ms => ms

end

mutual

/-- A tree of integers reads back. -/
theorem numbersReadBack_of_onlyIntegers : ∀ {t : Tree}, t.onlyIntegers = true → t.NumbersReadBack
  | .null, _ => trivial
  | .bool _, _ => trivial
  | .text _, _ => trivial
  | .broken, _ => trivial
  | .number _, h => Number.readsBack_of_isInteger h
  | .array items, h =>
    numbersReadBackItems_of_onlyIntegers (show onlyIntegersItems items = true from h)
  | .object members, h =>
    numbersReadBackMembers_of_onlyIntegers (show onlyIntegersMembers members = true from h)
  | .torn members, h =>
    numbersReadBackMembers_of_onlyIntegers (show onlyIntegersMembers members = true from h)

theorem numbersReadBackItems_of_onlyIntegers : ∀ {items : List Tree},
    onlyIntegersItems items = true → NumbersReadBackItems items
  | [], _ => trivial
  | t :: rest, h => by
    rw [onlyIntegersItems, Bool.and_eq_true] at h
    exact ⟨numbersReadBack_of_onlyIntegers h.1, numbersReadBackItems_of_onlyIntegers h.2⟩

theorem numbersReadBackMembers_of_onlyIntegers : ∀ {members : List (String × Tree)},
    onlyIntegersMembers members = true → NumbersReadBackMembers members
  | [], _ => trivial
  | (key, t) :: rest, h => by
    rw [onlyIntegersMembers, Bool.and_eq_true] at h
    exact ⟨numbersReadBack_of_onlyIntegers h.1, numbersReadBackMembers_of_onlyIntegers h.2⟩

end

theorem numbersReadBackItems_iff {items : List Tree} :
    NumbersReadBackItems items ↔ ∀ t ∈ items, t.NumbersReadBack := by
  induction items with
  | nil => simp [NumbersReadBackItems]
  | cons t rest ih => rw [NumbersReadBackItems, ih, List.forall_mem_cons]

theorem numbersReadBackMembers_iff {members : List (String × Tree)} :
    NumbersReadBackMembers members ↔ ∀ m ∈ members, m.2.NumbersReadBack := by
  induction members with
  | nil => simp [NumbersReadBackMembers]
  | cons m rest ih => rw [NumbersReadBackMembers, ih, List.forall_mem_cons]

end Tree

/-! ## Readers on trees of values -/

namespace Reader

/-- A value reads its own tree, if there is room for it. -/
theorem value_tree (v : Value) (room : Nat) :
    value room v.tree = if v.tree.depth ≤ room then .ok v else .error .unreadable := by
  rw [value, Value.ofTree?_tree]

/-- A value that is read is nested no deeper than there was room for. -/
theorem depth_le_of_value {room : Nat} {t : Tree} {v : Value} (h : value room t = .ok v) :
    v.tree.depth ≤ room := by
  simp only [value] at h
  split at h
  · next shallow =>
    split at h
    · next w read =>
      cases h
      exact Nat.le_trans (Value.depth_le_of_ofTree? read) shallow
    · cases h
  · cases h

/-- An object that was read is nested no deeper than the room there was for it. -/
theorem depth_le_of_dict_value {room : Nat} {t : Tree} {d : Dict Value}
    (h : dict value room t = .ok d) : (Value.object d).tree.depth ≤ room := by
  match room, t with
  | room + 1, .object ms =>
    simp only [dict] at h
    cases read : members (value room) ms with
    | error fault =>
      rw [read] at h
      cases h
    | ok entries =>
      rw [read] at h
      cases h
      refine Value.depth_ofMembers_le fun m hm => ?_
      obtain ⟨u, -, readMember⟩ := mem_of_members read hm
      exact depth_le_of_value readMember
  | room + 1, .torn ms =>
    simp only [dict, bind, Except.bind] at h
    split at h <;> cases h
  | 0, .object _ => cases h
  | 0, .torn _ => cases h
  | _, .null => simp [dict] at h
  | _, .bool _ => simp [dict] at h
  | _, .number _ => simp [dict] at h
  | _, .text _ => simp [dict] at h
  | _, .broken => simp [dict] at h
  | _, .array _ => simp [dict] at h

end Reader

end EffectFlow.Json
