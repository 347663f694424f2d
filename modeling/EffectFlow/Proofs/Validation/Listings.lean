import EffectFlow.Proofs.Validation.Orders

/-!
# Three listings of orders

The orders of a document are listed three times.  `Document.orders` reads the branches of every
stored node, `Node.ordersOf` goes through the nodes that the document is lifted to, and the
validator visits the stored nodes with their orders (`Document.visits`).

Lifting and the validator read the branches of gates only.  So their listings are the same where
all is lifted (`Entry.map_visitsOf_of_typed`), and the first listing may have more: the orders of
nodes that stand in the branches of an effect, and of all below these (`Entry.map_visitsOf_sublist`,
`Entry.ordersOf_eq_map_visitsOf_iff`).  An order of such a node may repeat another, and the
validator does not say so (`Document.listed_and_not_visited`).
-/

namespace EffectFlow

/-! ## Orders of nodes that are lifted -/

theorem word32?_eq_some_iff {x : Int64} {n : UInt32} :
    word32? x = some n ↔ x = storedOrder n := by
  constructor
  · intro found
    rw [word32?] at found
    split at found
    · next fits =>
      cases found
      have small : x.toInt.toNat < UInt32.size := (Int.toNat_lt fits.1).2 fits.2
      rw [← Int64.toInt_inj, storedOrder, toInt_ofNat_word32, UInt32.toNat_ofNat_of_lt' small]
      omega
    · cases found
  · rintro rfl
    exact word32?_ofNat n

/-- Is the kind that of a gate? -/
def NodeKind.isGate : NodeKind → Bool
  | effect _ => false
  | gate _ => true

namespace StoredNode

variable {w : StoredNode} {order : UInt32} {kind : NodeKind}

theorem order_of_head (head : w.head = .ok (order, kind)) : w.order = storedOrder order := by
  rw [StoredNode.head] at head
  split at head
  · next n fits =>
    rw [word32?_eq_some_iff.1 fits]
    cases known : w.kind with
    | error e => rw [known] at head; cases head
    | ok k => rw [known] at head; cases head; rfl
  · cases head

/-- A node that has a kind is a gate exactly if it has the name of one. -/
theorem gateName_of_kind (known : w.kind = .ok kind) : w.gateName.isSome = kind.isGate := by
  rw [StoredNode.kind] at known
  split at known
  · cases known
  · cases known
  · next isEffect =>
    split at known
    · cases known; rw [isEffect]; rfl
    · cases known
  · next isGate =>
    split at known
    · cases known; rw [isGate]; rfl
    · cases known

theorem gateName_of_head (head : w.head = .ok (order, kind)) :
    w.gateName.isSome = kind.isGate := by
  rw [StoredNode.head] at head
  split at head
  · cases known : w.kind with
    | error e => rw [known] at head; cases head
    | ok k =>
      rw [known] at head
      cases head
      exact gateName_of_kind known
  · cases head

end StoredNode

namespace Entry

/-! ## What is lifted, and what has no hidden nodes -/

mutual

/-- Is the entry lifted, and every entry of its branches if it is a gate? -/
def isTyped : Entry → Bool
  | unreadable _ => false
  | node w onPass onFail =>
    (node w onPass onFail).lift.isOk &&
      (!w.gateName.isSome || (allTyped onPass && allTyped onFail))
termination_by structural entry => entry

/-- Are the entries lifted, and every entry in the branches of gates? -/
def allTyped : List Entry → Bool
  | [] => true
  | entry :: rest => isTyped entry && allTyped rest
termination_by structural entries => entries

end

/-- Is the entry no node? -/
def isUnreadable : Entry → Bool
  | unreadable _ => true
  | node _ _ _ => false

mutual

/-- Is no node in a branch of an effect, as far as nodes are visited? -/
def isUnbranched : Entry → Bool
  | unreadable _ => true
  | node w onPass onFail =>
    if w.gateName.isSome then allUnbranched onPass && allUnbranched onFail
    else onPass.all isUnreadable && onFail.all isUnreadable
termination_by structural entry => entry

/-- Is no node in a branch of an effect, as far as nodes are visited? -/
def allUnbranched : List Entry → Bool
  | [] => true
  | entry :: rest => isUnbranched entry && allUnbranched rest
termination_by structural entries => entries

end

/-! ## The validator and lifting -/

mutual

/-- The orders of a node that is lifted are visited as lifting lists them. -/
theorem map_visits_of_typed : ∀ {entry : Entry}, entry.isTyped = true → ∀ (path : NodePath)
    {n : Node}, entry.lift = .ok n → (entry.visits path).map Prod.fst = n.orders.map storedOrder
  | .unreadable _, typed, _, _, _ => absurd typed Bool.false_ne_true
  | .node w onPass onFail, typed, path, n, lifted => by
    rw [isTyped, Bool.and_eq_true] at typed
    rw [Entry.lift] at lifted
    rw [visits]
    split at lifted
    · cases lifted
    · next order id head =>
      cases lifted
      rw [StoredNode.gateName_of_head head, StoredNode.order_of_head head]
      rfl
    · next order type head =>
      have isGate : w.gateName.isSome = true := StoredNode.gateName_of_head head
      have branches := typed.2
      rw [isGate, Bool.not_true, Bool.false_or, Bool.and_eq_true] at branches
      cases lifted
      rw [isGate, if_pos rfl, StoredNode.order_of_head head, Node.orders, List.map_cons,
        List.map_append, map_visitsOf_of_typed branches.1, map_visitsOf_of_typed branches.2,
        List.map_cons, List.map_append]

/-- Where all is lifted, the orders are visited as lifting lists them. -/
theorem map_visitsOf_of_typed : ∀ {entries : List Entry}, allTyped entries = true →
    ∀ (path : Nat → NodePath) (index : Nat),
      (visitsOf path index entries).map Prod.fst =
        (Node.ordersOf (liftAll entries)).map storedOrder
  | [], _, _, _ => rfl
  | entry :: rest, typed, path, index => by
    rw [allTyped, Bool.and_eq_true] at typed
    rw [visitsOf, liftAll, List.map_append, map_visitsOf_of_typed typed.2]
    cases lifted : entry.lift with
    | ok n =>
      rw [map_visits_of_typed typed.1 (path index) lifted, Node.ordersOf, List.map_append]
    | error e =>
      cases entry with
      | unreadable => cases typed.1
      | node =>
        rw [isTyped, lifted] at typed
        cases typed.1

end

/-! ## The validator and the stored listing -/

mutual

/-- What is visited is listed. -/
theorem map_visits_sublist : ∀ (entry : Entry) (path : NodePath),
    ((entry.visits path).map Prod.fst).Sublist entry.orders
  | .unreadable _, _ => List.nil_sublist _
  | .node w onPass onFail, path => by
    rw [visits, orders, List.map_cons]
    refine List.Sublist.cons_cons _ ?_
    split
    · rw [List.map_append]
      exact (map_visitsOf_sublist onPass _ 0).append (map_visitsOf_sublist onFail _ 0)
    · exact List.nil_sublist _

theorem map_visitsOf_sublist : ∀ (entries : List Entry) (path : Nat → NodePath) (index : Nat),
    ((visitsOf path index entries).map Prod.fst).Sublist (ordersOf entries)
  | [], _, _ => List.nil_sublist _
  | entry :: rest, path, index => by
    rw [visitsOf, ordersOf, List.map_append]
    exact (map_visits_sublist entry _).append (map_visitsOf_sublist rest path _)

end

/-- No orders are listed exactly if all entries are unreadable. -/
theorem ordersOf_eq_nil_iff {entries : List Entry} :
    ordersOf entries = [] ↔ entries.all isUnreadable = true := by
  induction entries with
  | nil => exact iff_of_true rfl rfl
  | cons entry rest ih =>
    rw [ordersOf, List.append_eq_nil_iff, ih, List.all_cons, Bool.and_eq_true]
    refine and_congr_left fun _ => ?_
    cases entry with
    | unreadable => exact iff_of_true rfl rfl
    | node => exact iff_of_false (List.cons_ne_nil _ _) Bool.false_ne_true

/-- Two parts make up the whole exactly if each is all of its side. -/
theorem append_eq_append_iff_of_sublist {α : Type} {front front' back back' : List α}
    (first : front'.Sublist front) (second : back'.Sublist back) :
    front ++ back = front' ++ back' ↔ front = front' ∧ back = back' := by
  constructor
  · intro same
    have lengths := congrArg List.length same
    rw [List.length_append, List.length_append] at lengths
    have firstLe := first.length_le
    have secondLe := second.length_le
    exact List.append_inj same (by omega)
  · rintro ⟨rfl, rfl⟩
    rfl

mutual

/-- The stored listing of an entry is that of its visits exactly if no effect in it has nodes in a
branch. -/
theorem orders_eq_map_visits_iff : ∀ (entry : Entry) (path : NodePath),
    entry.orders = (entry.visits path).map Prod.fst ↔ entry.isUnbranched = true
  | .unreadable _, _ => iff_of_true rfl rfl
  | .node w onPass onFail, path => by
    rw [visits, orders, isUnbranched, List.map_cons, List.cons_inj_right]
    cases w.gateName.isSome with
    | true =>
      rw [if_pos rfl, if_pos rfl, List.map_append, Bool.and_eq_true,
        append_eq_append_iff_of_sublist (map_visitsOf_sublist onPass _ 0)
          (map_visitsOf_sublist onFail _ 0),
        ordersOf_eq_map_visitsOf_iff onPass, ordersOf_eq_map_visitsOf_iff onFail]
    | false =>
      rw [if_neg Bool.false_ne_true, if_neg Bool.false_ne_true, List.map_nil,
        List.append_eq_nil_iff, ordersOf_eq_nil_iff, ordersOf_eq_nil_iff, Bool.and_eq_true]

/-- All that is listed is visited exactly if no node is in a branch of an effect. -/
theorem ordersOf_eq_map_visitsOf_iff : ∀ (entries : List Entry) (path : Nat → NodePath)
    (index : Nat), ordersOf entries = (visitsOf path index entries).map Prod.fst ↔
      allUnbranched entries = true
  | [], _, _ => iff_of_true rfl rfl
  | entry :: rest, path, index => by
    rw [ordersOf, visitsOf, allUnbranched, List.map_append, Bool.and_eq_true,
      append_eq_append_iff_of_sublist (map_visits_sublist entry _)
        (map_visitsOf_sublist rest path _),
      orders_eq_map_visits_iff entry, ordersOf_eq_map_visitsOf_iff rest]

end

end Entry

namespace Document

theorem storedOrder_injective : Function.Injective storedOrder := fun m _ same =>
  Option.some.inj ((word32?_ofNat m).symm.trans (word32?_eq_some_iff.2 same))

/-- The listings of a document of which all is lifted, as far as gates have branches.  The validator
visits the orders that lifting lists, and finds an error about orders exactly if one of them comes
twice.  The stored listing has these orders among its own.  It is the same, and so free of
repetition without such an error, exactly if no node is in a branch of an effect. -/
theorem listings_agree_iff (v : Validator) (d : Document)
    (typed : Entry.allTyped d.entries = true) :
    d.visits.map Prod.fst = (Node.ordersOf d.lift).map storedOrder ∧
      ((v.validate d).orderErrors = [] ↔ (Node.ordersOf d.lift).Nodup) ∧
      ((Node.ordersOf d.lift).map storedOrder).Sublist d.orders ∧
      (d.orders = (Node.ordersOf d.lift).map storedOrder ↔
        Entry.allUnbranched d.entries = true) ∧
      (d.orders.Nodup → (v.validate d).orderErrors = []) ∧
      (Entry.allUnbranched d.entries = true → (v.validate d).orderErrors = [] →
        d.orders.Nodup) := by
  have visited : d.visits.map Prod.fst = (Node.ordersOf d.lift).map storedOrder :=
    Entry.map_visitsOf_of_typed typed .top 0
  have natural : ∀ x ∈ d.visits, 0 ≤ x.1.toInt := by
    intro x mem
    have stored := List.mem_map_of_mem (f := Prod.fst) mem
    rw [visited] at stored
    obtain ⟨order, -, order_eq⟩ := List.mem_map.1 stored
    rw [← order_eq, storedOrder, toInt_ofNat_word32]
    exact Int.natCast_nonneg _
  have errors : (v.validate d).orderErrors = [] ↔ (Node.ordersOf d.lift).Nodup := by
    rw [Validator.orderErrors_eq_nil_iff, visited, List.nodup_map_iff storedOrder_injective]
    exact and_iff_right natural
  have listed : ((Node.ordersOf d.lift).map storedOrder).Sublist d.orders :=
    visited ▸ Entry.map_visitsOf_sublist d.entries .top 0
  have same : d.orders = (Node.ordersOf d.lift).map storedOrder ↔
      Entry.allUnbranched d.entries = true := by
    rw [← visited]
    exact Entry.ordersOf_eq_map_visitsOf_iff d.entries .top 0
  refine ⟨visited, errors, listed, same, fun distinct => ?_, fun unbranched none => ?_⟩
  · exact errors.2 (List.Nodup.of_map storedOrder (distinct.sublist listed))
  · rw [same.2 unbranched]
    exact (errors.1 none).map storedOrder_injective

/-- A gate over a summons, and a summons with something that is no node on pass. -/
def tidy : Document := ⟨[
  ⟨none, some "check", withBranch ∅ .onPass [⟨some 7, none, ∅, 1, none, 100⟩], 0, none, 100⟩,
  ⟨some 7, none, Dict.ofList [("onPass", .array [.null])], 2, none, 100⟩]⟩

theorem listings_agree_iff_tidy :
    Entry.allTyped tidy.entries = true ∧
      (Validator.lenient.validate tidy).orderErrors = [] ∧
      tidy.orders = (Node.ordersOf tidy.lift).map storedOrder ∧ tidy.orders.Nodup := by
  have typed : Entry.allTyped tidy.entries = true := by decide +kernel
  have unbranched : Entry.allUnbranched tidy.entries = true := by decide +kernel
  have distinct : (Node.ordersOf tidy.lift).Nodup := by decide +kernel
  obtain ⟨-, errors, -, same, -, nodup⟩ := listings_agree_iff Validator.lenient tidy typed
  exact ⟨typed, errors.2 distinct, same.2 unbranched, nodup unbranched (errors.2 distinct)⟩

/-- A summons with another of the same order on pass. -/
def branchedSummons : Document :=
  ⟨[⟨some 7, none, withBranch ∅ .onPass [⟨some 7, none, ∅, 0, none, 100⟩], 0, none, 100⟩]⟩

/-- All of the document is lifted, and its orders are without errors.  But the stored listing is not
that of the typed nodes, and has an order twice. -/
theorem listed_and_not_visited :
    Entry.allTyped branchedSummons.entries = true ∧
      (Validator.lenient.validate branchedSummons).orderErrors = [] ∧
      branchedSummons.orders = [0, 0] ∧
      (Node.ordersOf branchedSummons.lift).map storedOrder = [0] := by
  decide +kernel

end Document

end EffectFlow
