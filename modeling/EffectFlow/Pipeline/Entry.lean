import EffectFlow.Pipeline.Document

/-!
# Branches of stored nodes

The branches of a stored node stand among its parameters as arrays.  Each item of such an array is
an *entry*: a node with its own branches, or something that is no node.

`StoredNode.branch` reads one branch.  `StoredNode.entry` reads all branches at every depth into a
tree, and every traversal of a document is a recursion on such trees.  The recursion that builds the
tree ends because an entry weighs less than the node it stands in
(`StoredNode.weight_lt_of_mem_items`).
-/

namespace EffectFlow

open Json (Value Reader Shape Field)

/-! ## Branches -/

namespace StoredNode

/-- The items of the array under a key.  Without the key there are none. -/
def items? (w : StoredNode) (key : String) : Except DocumentError (List Value) :=
  match w.params.get? key with
  | none => .ok []
  | some v =>
    match v.view with
    | .array items => .ok items
    | _ => .error (.malformedBranch key (.notAnArray v))

/-- The items of the array under a key, if there is one. -/
def items (w : StoredNode) (key : String) : List Value :=
  match w.items? key with
  | .ok items => items
  | .error _ => []

/-- The place of an item in a branch. -/
def place (key : String) (index : Nat) : String := key ++ "[" ++ toString index ++ "]"

/-- Reads an item of a branch. -/
def ofItem (key : String) (index : Nat) (v : Value) : Except DocumentError StoredNode :=
  match ofValue v with
  | .ok w => .ok w
  | .error fault => .error (.malformedBranch (place key index) (.entry fault))

/-- The nodes of a branch, each with its own error. -/
def branch (w : StoredNode) (key : String) :
    Except DocumentError (List (Except DocumentError StoredNode)) :=
  match w.items? key with
  | .ok items => .ok (items.mapIdx (ofItem key))
  | .error error => .error error

/-! ## Weight -/

/-- A field leaves the parameters alone or reads them. -/
theorem params_of_change {field : Json.Field StoredNode} (mem : field ∈ shape.fields) {room : Nat}
    {t : Json.Tree} {change : StoredNode → StoredNode} (read : field.read room t = .ok change)
    (r : StoredNode) :
    (change r).params = r.params ∨ Reader.dict Reader.value room t = .ok (change r).params := by
  simp only [shape, List.mem_cons, List.not_mem_nil, or_false] at mem
  rcases mem with rfl | rfl | rfl | rfl | rfl | rfl
  all_goals
    simp only [Field.of, Except.map] at read
    split at read
    · cases read
    · next x readField =>
      cases read
      first
        | exact .inl rfl
        | exact .inr readField

/-- The parameters of a node weigh less than the value it was read from. -/
theorem weight_lt_of_get?_params {v u : Value} {w : StoredNode} (h : ofValue v = .ok w)
    {key : String} (hu : w.params.get? key = some u) : u.weight < v.weight := by
  refine Shape.read_induction
    (P := fun w => ∀ key u, w.params.get? key = some u → u.weight < v.weight) ?_ ?_ h key u hu
  · intro key u hu
    simp [shape, EmptyCollection.emptyCollection] at hu
  · intro field mem room _ t light change read r hr key u hu
    rcases params_of_change mem read r with same | readParams
    · rw [same] at hu
      exact hr key u hu
    · exact Nat.lt_trans (Reader.weight_lt_of_dict_value readParams hu) light

/-- An entry of a branch weighs less than the value that the node was read from. -/
theorem weight_lt_of_mem_items {v x : Value} {w : StoredNode} (h : ofValue v = .ok w) {key : String}
    (hx : x ∈ w.items key) : x.weight < v.weight := by
  simp only [items, items?] at hx
  split at hx
  · next items hitems =>
    split at hitems
    · simp_all
    · next u hu =>
      split at hitems
      · next items' view =>
        simp only [Except.ok.injEq] at hitems
        subst hitems
        exact Nat.lt_trans (Value.weight_lt_of_mem_items view hx) (weight_lt_of_get?_params h hu)
      · simp at hitems
  · simp at hx

end StoredNode

/-! ## Entries -/

/-- An item of a branch: a node with the entries of its branches, or something that is no node. -/
inductive Entry where
  /-- A node, the entries on pass and the entries on fail. -/
  | node (stored : StoredNode) (onPass onFail : List Entry)
  /-- Something that is no node. -/
  | unreadable (error : DocumentError)

namespace Entry

/-- Reads an item of a branch and all that stands below it. -/
def ofItem (key : String) (index : Nat) (v : Value) : Entry :=
  match h : StoredNode.ofValue v with
  | .error fault => unreadable (.malformedBranch (StoredNode.place key index) (.entry fault))
  | .ok w =>
    node w
      ((w.items Branch.onPass.key).attach.mapIdx fun i ⟨x, hx⟩ =>
        have : x.weight < v.weight := StoredNode.weight_lt_of_mem_items h hx
        ofItem Branch.onPass.key i x)
      ((w.items Branch.onFail.key).attach.mapIdx fun i ⟨x, hx⟩ =>
        have : x.weight < v.weight := StoredNode.weight_lt_of_mem_items h hx
        ofItem Branch.onFail.key i x)
termination_by v.weight

end Entry

/-- The entries of a branch. -/
def StoredNode.entries (w : StoredNode) (branch : Branch) : List Entry :=
  (w.items branch.key).mapIdx (Entry.ofItem branch.key)

/-- A node with the entries of its branches. -/
def StoredNode.entry (w : StoredNode) : Entry := .node w (w.entries .onPass) (w.entries .onFail)

theorem Entry.ofItem_of_ok {key : String} {index : Nat} {v : Value} {w : StoredNode}
    (h : StoredNode.ofValue v = .ok w) : Entry.ofItem key index v = w.entry := by
  rw [Entry.ofItem]
  split
  · simp_all
  · next w' h' =>
    cases h.symm.trans h'
    simp only [StoredNode.entry, StoredNode.entries]
    congr 1
    · exact List.ext_getElem (by simp) (by simp)
    · exact List.ext_getElem (by simp) (by simp)

theorem Entry.ofItem_of_error {key : String} {index : Nat} {v : Value} {fault : Json.Fault}
    (h : StoredNode.ofValue v = .error fault) :
    Entry.ofItem key index v =
      .unreadable (.malformedBranch (StoredNode.place key index) (.entry fault)) := by
  rw [Entry.ofItem]
  split
  · next h' => cases h.symm.trans h'; rfl
  · simp_all

/-- The top level of a document, with the entries of all branches. -/
def Document.entries (d : Document) : List Entry := d.nodes.map (·.entry)

/-! ## Orders -/

mutual

/-- The orders of an entry: of the node, of the nodes on pass, of the nodes on fail.  What is no
node is passed over. -/
def Entry.orders : Entry → List Int64
  | .node stored onPass onFail => stored.order :: (Entry.ordersOf onPass ++ Entry.ordersOf onFail)
  | .unreadable _ => []
termination_by structural entry => entry

/-- The orders of a list of entries. -/
def Entry.ordersOf : List Entry → List Int64
  | [] => []
  | entry :: rest => entry.orders ++ Entry.ordersOf rest
termination_by structural entries => entries

end

/-- The orders of all nodes of a document, each before those of its branches. -/
def Document.orders (d : Document) : List Int64 := Entry.ordersOf d.entries

end EffectFlow
