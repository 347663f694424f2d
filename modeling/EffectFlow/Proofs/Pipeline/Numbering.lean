import EffectFlow.Pipeline.Node

/-!
# Numbered nodes

Nodes are *numbered* from a number on if their orders ascend by one from there, in the order of the
pipeline (`Node.NumberedAll`).  So a gate is numbered from the number before those of its branches,
and a list is numbered node by node.
-/

namespace EffectFlow

namespace Node

mutual

theorem length_orders : ∀ n : Node, n.orders.length = n.size
  | effect _ _ _ _ _ => rfl
  | gate _ _ _ onPass onFail => by
    rw [orders, List.length_cons, List.length_append, length_ordersOf onPass,
      length_ordersOf onFail, size, Nat.add_comm]

theorem length_ordersOf : ∀ nodes : List Node, (ordersOf nodes).length = sizes nodes
  | [] => rfl
  | n :: rest => by
    rw [ordersOf, List.length_append, length_orders n, length_ordersOf rest, sizes]

end

/-- The orders from a number on. -/
def ordersFrom (start count : Nat) : List UInt32 := (List.range' start count).map UInt32.ofNat

/-- The orders of the tree ascend by one from a number on. -/
def Numbered (start : Nat) (n : Node) : Prop := n.orders = ordersFrom start n.size

/-- The orders of the trees ascend by one from a number on. -/
def NumberedAll (start : Nat) (nodes : List Node) : Prop :=
  ordersOf nodes = ordersFrom start (sizes nodes)

theorem ordersFrom_add (start a b : Nat) :
    ordersFrom start (a + b) = ordersFrom start a ++ ordersFrom (start + a) b := by
  rw [ordersFrom, ← List.range'_append_1, List.map_append]
  rfl

theorem length_ordersFrom (start count : Nat) : (ordersFrom start count).length = count := by
  rw [ordersFrom, List.length_map, List.length_range']

/-- Nodes are numbered from a start exactly if the first is, and the others from where it ends. -/
theorem numberedAll_cons_iff {start : Nat} {n : Node} {rest : List Node} :
    NumberedAll start (n :: rest) ↔
      Numbered start n ∧ NumberedAll (start + n.size) rest := by
  rw [NumberedAll, ordersOf, sizes, ordersFrom_add]
  constructor
  · intro eq
    exact List.append_inj eq (by rw [length_orders, length_ordersFrom])
  · rintro ⟨here, there⟩
    rw [here, there]

/-- A gate is numbered from a start exactly if it has the start as its order, what it leads to on
pass is numbered from the next, and what it leads to on fail from there on. -/
theorem numbered_gate_iff {start : Nat} {type : GateKind} {params : Dict Json.Value}
    {order : UInt32} {onPass onFail : List Node} :
    Numbered start (gate type params order onPass onFail) ↔
      order = UInt32.ofNat start ∧ NumberedAll (start + 1) onPass ∧
        NumberedAll (start + 1 + sizes onPass) onFail := by
  have split : ordersFrom start (1 + (sizes onPass + sizes onFail)) =
      UInt32.ofNat start ::
        (ordersFrom (start + 1) (sizes onPass) ++
          ordersFrom (start + 1 + sizes onPass) (sizes onFail)) := by
    rw [ordersFrom_add, ordersFrom_add]
    rfl
  rw [Numbered, orders, size, split, List.cons_eq_cons]
  refine and_congr_right fun _ => ⟨fun eq => ?_, ?_⟩
  · exact List.append_inj eq (by rw [length_ordersOf, length_ordersFrom])
  · rintro ⟨pass, fail⟩
    rw [pass, fail]

theorem numbered_effect_iff {start : Nat} {id : UInt32} {params : Dict Json.Value} {order : UInt32}
    {trigger : Option Trigger} {chance : UInt8} :
    Numbered start (effect id params order trigger chance) ↔ order = UInt32.ofNat start := by
  show [order] = [UInt32.ofNat start] ↔ _
  rw [List.cons_eq_cons]
  exact and_iff_left rfl

theorem numberedAll_nil (start : Nat) : NumberedAll start [] := rfl

/-- The order of a numbered node is the first of its orders. -/
theorem Numbered.order_eq {start : Nat} {n : Node} (h : Numbered start n) :
    n.order = UInt32.ofNat start := by
  cases n with
  | effect => exact numbered_effect_iff.1 h
  | gate => exact (numbered_gate_iff.1 h).1

theorem one_le_size (n : Node) : 1 ≤ n.size := by
  cases n with
  | effect => exact Nat.le_refl _
  | gate => exact Nat.le_add_right _ _

/-- Numbered nodes have orders from the number on. -/
theorem NumberedAll.exists_order {nodes : List Node} {start : Nat} (h : NumberedAll start nodes)
    {n : Node} (mem : n ∈ nodes) :
    ∃ k, start ≤ k ∧ k < start + sizes nodes ∧ n.order = UInt32.ofNat k := by
  induction nodes generalizing start with
  | nil => cases mem
  | cons m rest ih =>
    obtain ⟨here, there⟩ := numberedAll_cons_iff.1 h
    have positive := one_le_size m
    rw [sizes]
    rcases List.mem_cons.1 mem with rfl | mem
    · exact ⟨start, Nat.le_refl _, by omega, here.order_eq⟩
    · obtain ⟨k, low, high, eq⟩ := ih there mem
      exact ⟨k, by omega, by omega, eq⟩

end Node

end EffectFlow
