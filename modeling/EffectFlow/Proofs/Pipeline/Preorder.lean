import EffectFlow.Proofs.Pipeline.Numbering

/-!
# Nodes in the order of the pipeline

`Node.preorder` lists the nodes of a tree in the order of the pipeline: each gate, then the nodes
on pass, then the nodes on fail.  What holds of every node of a tree, at any depth, is stated as
what holds of every member of this list.
-/

namespace EffectFlow

namespace Node

mutual

/-- The nodes of a tree, its root first. -/
def preorder : Node → List Node
  | effect id params order trigger chance => [effect id params order trigger chance]
  | gate type params order onPass onFail =>
    gate type params order onPass onFail :: (preorderAll onPass ++ preorderAll onFail)
termination_by structural node => node

/-- The nodes of a list of trees. -/
def preorderAll : List Node → List Node
  | [] => []
  | node :: rest => preorder node ++ preorderAll rest
termination_by structural nodes => nodes

end

mutual

theorem length_preorder : ∀ n : Node, n.preorder.length = n.size
  | effect _ _ _ _ _ => rfl
  | gate _ _ _ onPass onFail => by
    rw [preorder, List.length_cons, List.length_append, length_preorderAll onPass,
      length_preorderAll onFail, size, Nat.add_comm]

theorem length_preorderAll : ∀ nodes : List Node, (preorderAll nodes).length = sizes nodes
  | [] => rfl
  | n :: rest => by
    rw [preorderAll, List.length_append, length_preorder n, length_preorderAll rest, sizes]

end

mutual

/-- The orders of a node are those of its nodes in preorder. -/
theorem map_order_preorder : ∀ n : Node, n.preorder.map order = n.orders
  | effect _ _ _ _ _ => rfl
  | gate _ _ _ onPass onFail => by
    rw [preorder, List.map_cons, List.map_append, map_order_preorderAll onPass,
      map_order_preorderAll onFail, orders]
    rfl

theorem map_order_preorderAll : ∀ nodes : List Node, (preorderAll nodes).map order = ordersOf nodes
  | [] => rfl
  | n :: rest => by
    rw [preorderAll, List.map_append, map_order_preorder n, map_order_preorderAll rest, ordersOf]

end

theorem mem_preorderAll_of_mem {nodes : List Node} {n m : Node} (mem : n ∈ nodes)
    (below : m ∈ n.preorder) : m ∈ preorderAll nodes := by
  induction nodes with
  | nil => cases mem
  | cons head rest ih =>
    rw [preorderAll, List.mem_append]
    rcases List.mem_cons.1 mem with rfl | mem
    · exact .inl below
    · exact .inr (ih mem)

/-- Is the node a gate? -/
def isGate : Node → Bool
  | effect _ _ _ _ _ => false
  | gate _ _ _ _ _ => true

end Node

end EffectFlow
