import EffectFlow.Proofs.Pipeline.Lifting
import EffectFlow.Proofs.Pipeline.Preorder
import EffectFlow.Validation.Path

/-!
# Paths of lowered nodes

`Node.located` lists the nodes of a tree in the order of the pipeline, each with its path.  In the
document of some nodes, the entry at a path is the lowered node that is listed with this path, and
where none is listed there is no entry (`Document.entry?_ofNodes_iff`).
-/

namespace EffectFlow

open Json (Value)

namespace Node

mutual

/-- The nodes of a tree with their paths, given the path of its root. -/
def located (path : NodePath) : Node → List (NodePath × Node)
  | effect id params order trigger chance => [(path, effect id params order trigger chance)]
  | gate type params order onPass onFail =>
    (path, gate type params order onPass onFail) ::
      (locatedAll (path.child .onPass) 0 onPass ++ locatedAll (path.child .onFail) 0 onFail)
termination_by structural node => node

/-- The nodes of a list of trees with their paths, given the paths of the roots by index. -/
def locatedAll (path : Nat → NodePath) (index : Nat) : List Node → List (NodePath × Node)
  | [] => []
  | node :: rest => located (path index) node ++ locatedAll path (index + 1) rest
termination_by structural nodes => nodes

end

mutual

/-- The nodes with their paths are the nodes in preorder. -/
theorem map_snd_located : ∀ (n : Node) (path : NodePath),
    (n.located path).map Prod.snd = n.preorder
  | effect _ _ _ _ _, _ => rfl
  | gate _ _ _ onPass onFail, path => by
    rw [located, preorder, List.map_cons, List.map_append, map_snd_locatedAll onPass,
      map_snd_locatedAll onFail]

/-- The located nodes stand in the order of the pipeline. -/
theorem map_snd_locatedAll : ∀ (nodes : List Node) (path : Nat → NodePath) (index : Nat),
    (locatedAll path index nodes).map Prod.snd = preorderAll nodes
  | [], _, _ => rfl
  | n :: rest, path, index => by
    rw [locatedAll, preorderAll, List.map_append, map_snd_located n, map_snd_locatedAll rest]

end

theorem self_mem_located (n : Node) (path : NodePath) : (path, n) ∈ n.located path := by
  cases n with
  | effect | gate => exact List.mem_cons_self

theorem mem_locatedAll_of_getElem? {nodes : List Node} {path : Nat → NodePath} {index i : Nat}
    {n : Node} (found : nodes[i]? = some n) {x : NodePath × Node}
    (mem : x ∈ n.located (path (index + i))) : x ∈ locatedAll path index nodes := by
  induction nodes generalizing index i with
  | nil => cases found
  | cons head rest ih =>
    rw [locatedAll, List.mem_append]
    cases i with
    | zero =>
      cases found
      exact .inl mem
    | succ i =>
      refine .inr (ih found ?_)
      rwa [Nat.add_assoc, Nat.add_comm 1]

/-- The entries of lowered nodes stand at the places of the nodes. -/
theorem entries_lowerAll_getElem? (nodes : List Node) (i : Nat) :
    ((lowerAll nodes).map (·.entry))[i]? = nodes[i]?.map (·.lower.entry) := by
  induction nodes generalizing i with
  | nil => rfl
  | cons n rest ih =>
    cases i with
    | zero => rfl
    | succ i => exact ih i

/-! ## From nodes to entries -/

mutual

/-- From the entry of a lowered node the path of a node below it leads to the entry of that node. -/
theorem follow?_of_mem_located : ∀ {n : Node} {path : NodePath} {x : NodePath × Node},
    (∀ m ∈ n.preorder, ArrayFree m.params) → x ∈ n.located path →
      ∃ steps, x.1 = ⟨path.index, path.steps ++ steps⟩ ∧
        n.lower.entry.follow? steps = some x.2.lower.entry
  | effect _ _ _ _ _, path, x, _, mem => by
    cases List.mem_singleton.1 mem
    exact ⟨[], by rw [List.append_nil], rfl⟩
  | gate _ params _ onPass onFail, path, x, free, mem => by
    rw [preorder, List.forall_mem_cons, List.forall_mem_append] at free
    obtain ⟨(here : ArrayFree params), freePass, freeFail⟩ := free
    rw [located, List.mem_cons, List.mem_append] at mem
    rw [entry_lower_gate here]
    rcases mem with rfl | pass | fail
    · refine ⟨[], by rw [List.append_nil], ?_⟩
      rw [entry_lower_gate here]
      rfl
    · obtain ⟨i, steps, n, found, path_eq, follow⟩ := follow?_of_mem_locatedAll freePass pass
      refine ⟨(.onPass, i) :: steps, by simpa [NodePath.child] using path_eq, ?_⟩
      rw [Entry.follow?, Entry.entriesOf, entries_lowerAll_getElem?, found]
      exact follow
    · obtain ⟨i, steps, n, found, path_eq, follow⟩ := follow?_of_mem_locatedAll freeFail fail
      refine ⟨(.onFail, i) :: steps, by simpa [NodePath.child] using path_eq, ?_⟩
      rw [Entry.follow?, Entry.entriesOf, entries_lowerAll_getElem?, found]
      exact follow

/-- A located node is reached from one of the roots by the steps of its path. -/
theorem follow?_of_mem_locatedAll : ∀ {nodes : List Node} {path : Nat → NodePath} {index : Nat}
    {x : NodePath × Node}, (∀ m ∈ preorderAll nodes, ArrayFree m.params) →
      x ∈ locatedAll path index nodes →
        ∃ i steps n, nodes[i]? = some n ∧
          x.1 = ⟨(path (index + i)).index, (path (index + i)).steps ++ steps⟩ ∧
            n.lower.entry.follow? steps = some x.2.lower.entry
  | n :: rest, path, index, x, free, mem => by
    rw [preorderAll, List.forall_mem_append] at free
    rw [locatedAll, List.mem_append] at mem
    rcases mem with here | there
    · obtain ⟨steps, path_eq, follow⟩ := follow?_of_mem_located free.1 here
      exact ⟨0, steps, n, rfl, path_eq, follow⟩
    · obtain ⟨i, steps, m, found, path_eq, follow⟩ := follow?_of_mem_locatedAll free.2 there
      refine ⟨i + 1, steps, m, found, ?_, follow⟩
      rwa [Nat.add_assoc, Nat.add_comm 1] at path_eq

end

/-! ## From entries to nodes -/

/-- Steps from a lowered node lead to nodes that are located at their ends. -/
theorem mem_located_of_follow? {steps : List (Branch × Nat)} {n : Node} {path : NodePath}
    {e : Entry} (free : ∀ m ∈ n.preorder, ArrayFree m.params)
    (follow : n.lower.entry.follow? steps = some e) :
    ∃ m, (⟨path.index, path.steps ++ steps⟩, m) ∈ n.located path ∧ e = m.lower.entry := by
  induction steps generalizing n path with
  | nil =>
    cases follow
    refine ⟨n, ?_, rfl⟩
    rw [List.append_nil]
    exact n.self_mem_located path
  | cons step rest ih =>
    obtain ⟨branch, i⟩ := step
    obtain ⟨next, found, follow⟩ := Option.bind_eq_some_iff.1 follow
    cases n with
    | effect id params order trigger chance =>
      have here : ArrayFree params := free _ List.mem_cons_self
      rw [entry_lower_effect here] at found
      cases branch <;> cases found
    | gate type params order onPass onFail =>
      rw [preorder, List.forall_mem_cons, List.forall_mem_append] at free
      obtain ⟨(here : ArrayFree params), freePass, freeFail⟩ := free
      rw [entry_lower_gate here] at found
      -- Whichever branch it is, the step leads to one of its nodes, and that is located there.
      have onward : ∀ nodes : List Node, (∀ m ∈ preorderAll nodes, ArrayFree m.params) →
          ((lowerAll nodes).map (·.entry))[i]? = some next →
            ∃ m, (⟨path.index, path.steps ++ (branch, i) :: rest⟩, m) ∈
              locatedAll (path.child branch) 0 nodes ∧ e = m.lower.entry := by
        intro nodes freeBelow found
        rw [entries_lowerAll_getElem?] at found
        obtain ⟨child, child_eq, rfl⟩ := Option.map_eq_some_iff.1 found
        have freeChild : ∀ m ∈ child.preorder, ArrayFree m.params := fun m mem =>
          freeBelow m (mem_preorderAll_of_mem (List.mem_of_getElem? child_eq) mem)
        obtain ⟨m, mem, e_eq⟩ := @ih child (path.child branch i) freeChild follow
        refine ⟨m, mem_locatedAll_of_getElem? child_eq ?_, e_eq⟩
        rw [Nat.zero_add]
        simpa [NodePath.child] using mem
      cases branch with
      | onPass =>
        obtain ⟨m, mem, e_eq⟩ := onward onPass freePass found
        exact ⟨m, List.mem_cons_of_mem _ (List.mem_append_left _ mem), e_eq⟩
      | onFail =>
        obtain ⟨m, mem, e_eq⟩ := onward onFail freeFail found
        exact ⟨m, List.mem_cons_of_mem _ (List.mem_append_right _ mem), e_eq⟩

end Node

/-- The entries of a document are the lowered nodes, each at its path. -/
theorem Document.entry?_ofNodes_iff {nodes : List Node}
    (free : ∀ n ∈ Node.preorderAll nodes, ArrayFree n.params) {path : NodePath} {e : Entry} :
    Document.entry? (Document.ofNodes nodes) path = some e ↔
      ∃ n, (path, n) ∈ Node.locatedAll .top 0 nodes ∧ e = n.lower.entry := by
  have entry?_eq : Document.entry? (ofNodes nodes) path =
      (nodes[path.index]?.map (·.lower.entry)).bind fun top => top.follow? path.steps := by
    rw [← Node.entries_lowerAll_getElem?]
    rfl
  rw [entry?_eq]
  constructor
  · intro found
    obtain ⟨top, atTop, follow⟩ := Option.bind_eq_some_iff.1 found
    obtain ⟨n, n_eq, rfl⟩ := Option.map_eq_some_iff.1 atTop
    have freeTop : ∀ m ∈ n.preorder, ArrayFree m.params := fun m mem =>
      free m (Node.mem_preorderAll_of_mem (List.mem_of_getElem? n_eq) mem)
    obtain ⟨m, mem, e_eq⟩ :=
      @Node.mem_located_of_follow? path.steps n (.top path.index) e freeTop follow
    refine ⟨m, Node.mem_locatedAll_of_getElem? n_eq ?_, e_eq⟩
    rw [Nat.zero_add]
    exact mem
  · rintro ⟨n, mem, rfl⟩
    obtain ⟨i, steps, top, found, path_eq, follow⟩ := Node.follow?_of_mem_locatedAll free mem
    rw [Nat.zero_add] at path_eq
    cases path_eq
    show (nodes[i]?.map _).bind _ = _
    rw [found]
    exact follow

end EffectFlow
