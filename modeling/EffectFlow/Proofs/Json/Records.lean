import EffectFlow.Proofs.Json.Values

/-!
# Trees that are read back

`Reader.Reads` says that a reader takes a tree to some value as long as there is room for the tree,
and to no value otherwise.  It holds of the containers if it holds of what is in them: of lists
(`Reader.reads_list`), of dictionaries (`Reader.reads_dict`) and of records, whose members may stand
in any order (`Shape.reads_object`).  The text of such a tree is read as the tree is, if its numbers
read back (`Reader.ofText_pretty`).
-/

namespace EffectFlow.Json

namespace Reader

variable {α β : Type}

/-- The reader takes the tree to the value, if there is room for the tree. -/
def Reads (reader : Reader α) (t : Tree) (x : α) : Prop :=
  ∀ room, reader room t = if t.depth ≤ room then .ok x else .error .unreadable

/-! ## Leaves -/

theorem reads_text (s : String) : text.Reads (.text s) s := fun room =>
  (if_pos (Nat.zero_le room)).symm

theorem reads_float (x : Binary64) : float.Reads (.float x) x := fun room =>
  (if_pos (Nat.zero_le room)).symm

theorem reads_index {n : Nat} (fits : n ≤ maxUnsigned64) :
    index.Reads (.number (.ofNat n fits)) n := by
  intro room
  have range : (0 : Int) ≤ n ∧ (n : Int) ≤ maxUnsigned64 :=
    ⟨Int.natCast_nonneg n, Int.ofNat_le.2 fits⟩
  simp [index, integer, Number.ofNat, range, Except.map, Tree.depth]

theorem reads_int64 (n : Int64) : int64.Reads (Value.int64 n).tree n := by
  intro room
  have range : minSigned64 ≤ n.toInt ∧ n.toInt ≤ maxSigned64 :=
    ⟨n.le_toInt, Int.le_of_lt_add_one n.toInt_lt⟩
  simp [int64, integer, Value.int64, Value.number, Number.ofInt64, range, Except.map, Tree.depth]

theorem reads_value (v : Value) : value.Reads v.tree v := value_tree v

/-! ## Containers -/

/-- What is read back is still so when the result is changed. -/
theorem reads_map {reader : Reader α} {t : Tree} {x : α} (reads : reader.Reads t x) (f : α → β) :
    Reads (fun room t => (reader room t).map f) t (f x) := by
  intro room
  show (reader room t).map f = _
  rw [reads room]
  split <;> rfl

/-- An optional part that is there is read back if the part is, and is not written as null. -/
theorem reads_optional {item : Reader α} {t : Tree} {x : α} (reads : item.Reads t x)
    (some_tree : t ≠ .null) : (optional item).Reads t (some x) := by
  intro room
  have read : optional item room t = (item room t).map some := by
    cases t with
    | null => exact absurd rfl some_tree
    | _ => rfl
  rw [read]
  exact reads_map reads some room

/-- The items of an array are read back exactly if there is room for each. -/
theorem items_eq {item : Reader α} {tree : α → Tree} {xs : List α}
    (reads : ∀ x ∈ xs, item.Reads (tree x) x) (room : Nat) :
    items (item room) (xs.map tree) =
      if ∀ x ∈ xs, (tree x).depth ≤ room then .ok xs else .error .unreadable := by
  induction xs with
  | nil => rfl
  | cons x rest ih =>
    rw [List.map_cons, items, reads x List.mem_cons_self,
      ih fun y mem => reads y (List.mem_cons_of_mem _ mem)]
    simp only [List.forall_mem_cons]
    by_cases here : (tree x).depth ≤ room
    · by_cases there : ∀ y ∈ rest, (tree y).depth ≤ room
      · simp only [if_pos here, if_pos there, if_pos (And.intro here there), bind, Except.bind]
      · simp only [if_pos here, if_neg there, if_neg (mt And.right there), bind, Except.bind]
    · simp only [if_neg here, if_neg (mt And.left here), bind, Except.bind]

theorem members_eq {item : Reader α} {tree : α → Tree} {entries : List (String × α)}
    (reads : ∀ e ∈ entries, item.Reads (tree e.2) e.2) (room : Nat) :
    members (item room) (entries.map fun e => (e.1, tree e.2)) =
      if ∀ e ∈ entries, (tree e.2).depth ≤ room then .ok entries else .error .unreadable := by
  induction entries with
  | nil => rfl
  | cons e rest ih =>
    rw [List.map_cons, members, reads e List.mem_cons_self,
      ih fun y mem => reads y (List.mem_cons_of_mem _ mem)]
    simp only [List.forall_mem_cons]
    by_cases here : (tree e.2).depth ≤ room
    · by_cases there : ∀ y ∈ rest, (tree y.2).depth ≤ room
      · simp only [if_pos here, if_pos there, if_pos (And.intro here there), bind, Except.bind]
      · simp only [if_pos here, if_neg there, if_neg (mt And.right there), bind, Except.bind]
    · simp only [if_neg here, if_neg (mt And.left here), bind, Except.bind]

/-- A list is read back if its items are. -/
theorem reads_list {item : Reader α} {tree : α → Tree} {xs : List α}
    (reads : ∀ x ∈ xs, item.Reads (tree x) x) : (list item).Reads (.array (xs.map tree)) xs := by
  intro room
  cases room with
  | zero => exact (if_neg (by rw [Tree.depth]; omega)).symm
  | succ room =>
    have fits : (Tree.array (xs.map tree)).depth ≤ room + 1 ↔ ∀ x ∈ xs, (tree x).depth ≤ room := by
      rw [Tree.depth, Nat.add_comm, Nat.add_le_add_iff_right, Tree.depthItems_le_iff,
        List.forall_mem_map]
    simp only [fits]
    exact items_eq reads room

/-- A dictionary is read back if its values are. -/
theorem reads_dict {item : Reader α} {tree : α → Tree} {d : Dict α}
    (reads : ∀ e ∈ d.entries, item.Reads (tree e.2) e.2) :
    (dict item).Reads (.object (d.map tree).entries) d := by
  intro room
  cases room with
  | zero => exact (if_neg (by rw [Tree.depth]; omega)).symm
  | succ room =>
    have fits : (Tree.object (d.map tree).entries).depth ≤ room + 1 ↔
        ∀ e ∈ d.entries, (tree e.2).depth ≤ room := by
      rw [Tree.depth, Nat.add_comm, Nat.add_le_add_iff_right, Tree.depthMembers_le_iff]
      exact List.forall_mem_map
    simp only [fits]
    show (members (item room) (d.entries.map fun e => (e.1, tree e.2))).map Dict.ofList = _
    rw [members_eq reads room]
    split
    · show Except.ok (Dict.ofList d.entries) = _
      rw [Dict.ofList_entries]
    · rfl

theorem reads_dict_value (d : Dict Value) :
    (Reader.dict value).Reads (Value.object d).tree d :=
  reads_dict fun e _ => reads_value e.2

/-- An array of two is read back if both items are. -/
theorem reads_pair {item : Reader α} {t u : Tree} {x y : α} (first : item.Reads t x)
    (second : item.Reads u y) : (pair item).Reads (.array [t, u]) (x, y) := by
  intro room
  cases room with
  | zero => exact (if_neg (by rw [Tree.depth]; omega)).symm
  | succ room =>
    have fits : (Tree.array [t, u]).depth ≤ room + 1 ↔ t.depth ≤ room ∧ u.depth ≤ room := by
      rw [Tree.depth, Nat.add_comm, Nat.add_le_add_iff_right, Tree.depthItems_le_iff]
      simp
    simp only [fits, Reader.pair, first room, second room]
    by_cases here : t.depth ≤ room
    · by_cases there : u.depth ≤ room
      · simp [here, there, bind, Except.bind]
      · simp [here, there, bind, Except.bind]
    · simp [here, bind, Except.bind]

/-! ## Texts -/

/-- From the text of a tree is read what is read from the tree, unless it is nested too deeply. -/
theorem ofText_pretty {reader : Reader α} {t : Tree} {x : α} (reads : reader.Reads t x)
    (whole : t.isWhole = true) (back : t.NumbersReadBack) :
    ofText reader t.pretty =
      if t.depth ≤ maxDepth then .ok x else .error ⟨.unreadable, false⟩ := by
  simp only [ofText, scan_pretty whole back, reads maxDepth]
  by_cases shallow : t.depth ≤ maxDepth
  · simp only [if_pos shallow, if_true]
  · have unreadable : t.isReadable = false := by simp [Tree.isReadable, shallow]
    simp only [if_neg shallow, unreadable, Bool.and_false]

end Reader

/-! ## Records -/

namespace Shape

open Reader (Reads)

variable {R : Type} {shape : Shape R}

/-- A member of an object, with the change of a record that it stands for. -/
structure Member (R : Type) where
  /-- The key. -/
  key : String
  /-- What stands under it. -/
  tree : Tree
  /-- The change. -/
  change : R → R

/-- The shape has a field for the member, which reads it. -/
def Takes (shape : Shape R) (m : Member R) : Prop :=
  ∃ field, shape.fields.find? (·.key == m.key) = some field ∧ Reads field.read m.tree m.change

/-- The members of an object are read one after the other. -/
theorem readMembers_eq {ms : List (Member R)} (takes : ∀ m ∈ ms, shape.Takes m)
    (distinct : (ms.map (·.key)).Nodup) {seen : List String} (new : ∀ m ∈ ms, m.key ∉ seen)
    (room : Nat) (r : R) :
    readMembers shape.fields room (ms.map fun m => (m.key, m.tree)) seen r =
      if ∀ m ∈ ms, m.tree.depth ≤ room then
        .ok (ms.foldl (fun r m => m.change r) r, (ms.map (·.key)).reverse ++ seen)
      else .error .unreadable := by
  induction ms generalizing seen r with
  | nil => rfl
  | cons m rest ih =>
    obtain ⟨field, found, reads⟩ := takes m List.mem_cons_self
    rw [List.map_cons, List.nodup_cons] at distinct
    have stillNew : ∀ n ∈ rest, n.key ∉ m.key :: seen := by
      intro n mem again
      rcases List.mem_cons.1 again with same | old
      · exact distinct.1 (List.mem_map.2 ⟨n, mem, same⟩)
      · exact new n (List.mem_cons_of_mem _ mem) old
    have later := ih (fun n mem => takes n (List.mem_cons_of_mem _ mem)) distinct.2 stillNew
      (m.change r)
    have unseen : seen.contains m.key = false := by
      simpa using new m List.mem_cons_self
    simp only [List.map_cons, readMembers, found, unseen, Bool.false_eq_true, if_false, reads room,
      List.forall_mem_cons]
    by_cases here : m.tree.depth ≤ room
    · simp only [here, if_true, true_and, bind, Except.bind, List.foldl_cons, List.reverse_cons,
        List.append_assoc, List.cons_append, List.nil_append]
      exact later
    · simp only [here, if_false, false_and, bind, Except.bind]

/-- A record is read back from its members, in whatever order they stand, if no field that it needs
is left out. -/
theorem reads_object {ms : List (Member R)} (takes : ∀ m ∈ ms, shape.Takes m)
    (distinct : (ms.map (·.key)).Nodup)
    (complete : ∀ field ∈ shape.fields, field.required = true → field.key ∈ ms.map (·.key)) {r : R}
    (whole : ms.foldl (fun r m => m.change r) shape.blank = r) (origin : Origin) :
    (shape.read origin).Reads (.object (ms.map fun m => (m.key, m.tree))) r := by
  intro room
  cases room with
  | zero => exact (if_neg (by rw [Tree.depth]; omega)).symm
  | succ room =>
    have fits : (Tree.object (ms.map fun m => (m.key, m.tree))).depth ≤ room + 1 ↔
        ∀ m ∈ ms, m.tree.depth ≤ room := by
      rw [Tree.depth, Nat.add_comm, Nat.add_le_add_iff_right, Tree.depthMembers_le_iff]
      exact List.forall_mem_map
    have read := readMembers_eq takes distinct (fun _ _ => List.not_mem_nil) room shape.blank
    simp only [fits, Shape.read, read, whole, List.append_nil]
    split
    · have none_missing : (shape.fields.find? fun field =>
          field.required && !(ms.map (·.key)).reverse.contains field.key) = none := by
        refine List.find?_eq_none.2 fun field mem missing => ?_
        rw [Bool.and_eq_true, Bool.not_eq_true', List.contains_reverse] at missing
        have written := List.contains_iff_mem.2 (complete field mem missing.1)
        exact Bool.false_ne_true (missing.2.symm.trans written)
      simp only [bind, Except.bind, none_missing]
    · rfl

end Shape

end EffectFlow.Json
