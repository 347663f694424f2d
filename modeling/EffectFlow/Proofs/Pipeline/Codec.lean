import EffectFlow.Pipeline.Lift
import EffectFlow.Proofs.Json.Records

/-!
# Stored nodes that read back

A stored node is read back from its tree (`StoredNode.reads_toTree`) and from its value, whose
members stand in the order of their keys (`StoredNode.ofValue_toValue`).

So a document is read back from its text if its numbers read back and it is not nested too deeply,
and otherwise its text is no document (`Document.ofText_toText`).
-/

namespace EffectFlow

open Json (Value Tree Reader Shape Origin)

namespace Json.Reader

theorem mem_of_items {α : Type} {item : Tree → Except Fault α} {ts : List Tree} {xs : List α}
    (h : items item ts = .ok xs) {x : α} (mem : x ∈ xs) : ∃ t ∈ ts, item t = .ok x := by
  induction ts generalizing xs with
  | nil =>
    cases h
    cases mem
  | cons t rest ih =>
    simp only [items, bind, Except.bind] at h
    split at h
    · cases h
    · next y readHead =>
      split at h
      · cases h
      · next ys readRest =>
        cases h
        rcases List.mem_cons.1 mem with rfl | later
        · exact ⟨t, List.mem_cons_self, readHead⟩
        · obtain ⟨u, memRest, readItem⟩ := ih readRest later
          exact ⟨u, List.mem_cons_of_mem _ memRest, readItem⟩

end Json.Reader

/-! ## Nodes -/

namespace StoredNode

theorem depth_toTree (w : StoredNode) :
    w.toTree.depth = (Value.object w.params).tree.depth + 1 := by
  obtain ⟨effectId, gateName, params, order, trigger, chance⟩ := w
  cases effectId <;> cases gateName <;> cases trigger <;>
    simp [toTree, members, Tree.depth, Tree.depthMembers, Value.int64, Value.number, Value.text,
      Nat.add_comm]

/-- The members of the value of a node, in the order of their keys. -/
theorem sortedMembers (w : StoredNode) : (Dict.ofList w.members).entries =
    [("chancePct", Value.int64 w.chance)] ++
    (w.effectId.map fun x => ("effectId", Value.int64 x)).toList ++
    (w.gateName.map fun x => ("gateType", Value.text x)).toList ++
    [("order", Value.int64 w.order), ("overrideParams", Value.object w.params)] ++
    (w.trigger.map fun x => ("trigger", Value.text x)).toList := by
  obtain ⟨effectId, gateName, params, order, trigger, chance⟩ := w
  cases effectId <;> cases gateName <;> cases trigger <;>
    simp only [members, Dict.ofList, Dict.insert, Dict.empty, Entries.insert, Option.map_none,
      Option.map_some, Option.toList_none, Option.toList_some, List.nil_append, List.append_nil,
      List.cons_append, List.foldl_cons, List.foldl_nil, String.reduceLT, String.reduceEq,
      if_true, if_false]

theorem tree_toValue (w : StoredNode) :
    w.toValue.tree = .object ((Dict.ofList w.members).entries.map fun m => (m.1, m.2.tree)) := rfl

/-! ### Members -/

/-- The member with the number of an effect. -/
def idPart (w : StoredNode) : List (Shape.Member StoredNode) :=
  (w.effectId.map fun x =>
    ⟨"effectId", (Value.int64 x).tree, fun r => { r with effectId := some x }⟩).toList

/-- The member with the name of a gate. -/
def gatePart (w : StoredNode) : List (Shape.Member StoredNode) :=
  (w.gateName.map fun x =>
    ⟨"gateType", (Value.text x).tree, fun r => { r with gateName := some x }⟩).toList

/-- The member with the trigger. -/
def triggerPart (w : StoredNode) : List (Shape.Member StoredNode) :=
  (w.trigger.map fun x =>
    ⟨"trigger", (Value.text x).tree, fun r => { r with trigger := some x }⟩).toList

/-- The member with the parameters. -/
def paramsMember (w : StoredNode) : Shape.Member StoredNode :=
  ⟨"overrideParams", (Value.object w.params).tree, fun r => { r with params := w.params }⟩

/-- The member with the order. -/
def orderMember (w : StoredNode) : Shape.Member StoredNode :=
  ⟨"order", (Value.int64 w.order).tree, fun r => { r with order := w.order }⟩

/-- The member with the chance. -/
def chanceMember (w : StoredNode) : Shape.Member StoredNode :=
  ⟨"chancePct", (Value.int64 w.chance).tree, fun r => { r with chance := w.chance }⟩

/-- The members of a node as they are written. -/
def written (w : StoredNode) : List (Shape.Member StoredNode) :=
  w.idPart ++ w.gatePart ++ [w.paramsMember, w.orderMember] ++ w.triggerPart ++ [w.chanceMember]

/-- The members of a node in the order of their keys. -/
def sorted (w : StoredNode) : List (Shape.Member StoredNode) :=
  [w.chanceMember] ++ w.idPart ++ w.gatePart ++ [w.orderMember, w.paramsMember] ++ w.triggerPart

/-- As a value a node has the members that it is written with, in another order. -/
theorem perm_sorted (w : StoredNode) : w.sorted.Perm w.written := by
  have swap : [w.orderMember, w.paramsMember].Perm [w.paramsMember, w.orderMember] := .swap _ _ _
  have inner : (w.idPart ++ w.gatePart ++ [w.orderMember, w.paramsMember] ++ w.triggerPart).Perm
      (w.idPart ++ w.gatePart ++ [w.paramsMember, w.orderMember] ++ w.triggerPart) :=
    (swap.append_left _).append_right _
  exact (List.perm_append_singleton w.chanceMember _).symm.trans
    (inner.append_right [w.chanceMember])

/-- A node is written as the object of its members that are written. -/
theorem toTree_eq (w : StoredNode) :
    w.toTree = .object (w.written.map fun m => (m.key, m.tree)) := by
  obtain ⟨effectId, gateName, params, order, trigger, chance⟩ := w
  cases effectId <;> cases gateName <;> cases trigger <;> rfl

theorem tree_toValue_eq (w : StoredNode) :
    w.toValue.tree = .object (w.sorted.map fun m => (m.key, m.tree)) := by
  rw [tree_toValue, sortedMembers]
  obtain ⟨effectId, gateName, params, order, trigger, chance⟩ := w
  cases effectId <;> cases gateName <;> cases trigger <;> rfl

/-- The fields of a node read what is written for them. -/
theorem takes_of_mem_written {w : StoredNode} {m : Shape.Member StoredNode}
    (mem : m ∈ w.written) : shape.Takes m := by
  simp only [written, idPart, gatePart, triggerPart, List.mem_append, List.mem_cons,
    List.not_mem_nil, or_false, Option.mem_toList, Option.map_eq_some_iff] at mem
  rcases mem with (((⟨x, -, rfl⟩ | ⟨x, -, rfl⟩) | rfl | rfl) | ⟨x, -, rfl⟩) | rfl
  case inl.inl.inl.inl =>
    have id := Reader.reads_optional (Reader.reads_int64 x) Tree.noConfusion
    exact ⟨_, rfl, Reader.reads_map id _⟩
  case inl.inl.inl.inr | inl.inr =>
    have name := Reader.reads_optional (Reader.reads_text x) Tree.noConfusion
    exact ⟨_, rfl, Reader.reads_map name _⟩
  case inl.inl.inr.inl => exact ⟨_, rfl, Reader.reads_map (Reader.reads_dict_value w.params) _⟩
  case inl.inl.inr.inr => exact ⟨_, rfl, Reader.reads_map (Reader.reads_int64 w.order) _⟩
  case inr => exact ⟨_, rfl, Reader.reads_map (Reader.reads_int64 w.chance) _⟩

/-- A node is read back from its members, in whatever order they stand. -/
theorem reads_object {w : StoredNode} {ms : List (Shape.Member StoredNode)}
    (perm : ms.Perm w.written) (whole : ms.foldl (fun r m => m.change r) shape.blank = w)
    (origin : Origin) :
    (shape.read origin).Reads (.object (ms.map fun m => (m.key, m.tree))) w := by
  have keys := perm.map (·.key)
  have distinct : (w.written.map (·.key)).Nodup := by
    obtain ⟨effectId, gateName, params, order, trigger, chance⟩ := w
    cases effectId <;> cases gateName <;> cases trigger <;>
      simp [written, idPart, gatePart, triggerPart, paramsMember, orderMember, chanceMember]
  refine Shape.reads_object (fun m mem => takes_of_mem_written (perm.mem_iff.1 mem))
    (keys.nodup_iff.2 distinct) ?_ whole origin
  intro field mem required
  simp only [shape, List.mem_cons, List.not_mem_nil, or_false] at mem
  rcases mem with rfl | rfl | rfl | rfl | rfl | rfl
  case inr.inr.inr.inl =>
    have ordered : w.orderMember ∈ w.written := by simp [written]
    exact keys.mem_iff.2 (List.mem_map_of_mem ordered)
  all_goals cases required

/-- A node is read back from its tree. -/
theorem reads_toTree (w : StoredNode) (origin : Origin) :
    (shape.read origin).Reads w.toTree w := by
  have whole : w.written.foldl (fun r m => m.change r) shape.blank = w := by
    obtain ⟨effectId, gateName, params, order, trigger, chance⟩ := w
    cases effectId <;> cases gateName <;> cases trigger <;> rfl
  rw [toTree_eq]
  exact reads_object (.refl _) whole origin

/-- A node is read back from its value. -/
theorem ofValue_toValue (w : StoredNode) : ofValue w.toValue = .ok w := by
  have whole : w.sorted.foldl (fun r m => m.change r) shape.blank = w := by
    obtain ⟨effectId, gateName, params, order, trigger, chance⟩ := w
    cases effectId <;> cases gateName <;> cases trigger <;> rfl
  have reads := reads_object w.perm_sorted whole .value
  rw [← tree_toValue_eq] at reads
  rw [ofValue, reads, if_pos (Nat.le_refl _)]

/-- A node that was read needs no more room than there was, if there was room for parameters. -/
theorem depth_toTree_le_of_read {w : StoredNode} {origin : Origin} {room : Nat} {t : Tree}
    (h : shape.read origin (room + 2) t = .ok w) : w.toTree.depth ≤ room + 2 := by
  rw [depth_toTree]
  refine Nat.succ_le_succ (Shape.read_induction
    (P := fun r => (Value.object r.params).tree.depth ≤ room + 1) ?_ ?_ h)
  · exact Nat.succ_le_succ (Nat.zero_le room)
  · intro field mem inner less u _ change read r shallow
    rcases params_of_change mem read r with same | readParams
    · rwa [same]
    · exact Nat.le_trans (Reader.depth_le_of_dict_value readParams) (Nat.le_of_lt_succ less)

theorem isWhole_toTree (w : StoredNode) : w.toTree.isWhole = true :=
  Tree.isWholeMembers_iff.2 <| List.forall_mem_map.2 fun m _ => Tree.isWhole_of_normal m.2.normal

end StoredNode

/-! ## Documents -/

namespace Document

/-- The tree of a document. -/
def toTree (d : Document) : Tree := .array (d.nodes.map (·.toTree))

theorem toText_eq (d : Document) : d.toText = d.toTree.pretty := rfl

/-- The nodes of a document are read back from its tree. -/
theorem reads_toTree (d : Document) (origin : Origin) :
    (Reader.list (StoredNode.shape.read origin)).Reads d.toTree d.nodes :=
  Reader.reads_list fun w _ => w.reads_toTree origin

theorem isWhole_toTree (d : Document) : d.toTree.isWhole = true :=
  Tree.isWholeItems_iff.2 (List.forall_mem_map.2 fun w _ => w.isWhole_toTree)

/-- A document is read back from its text, unless it is nested too deeply. -/
theorem ofText_toText {d : Document} (back : d.toTree.NumbersReadBack) :
    ofText d.toText =
      if d.toTree.depth ≤ Json.maxDepth then .ok d
      else .error (.malformed ⟨.unreadable, false⟩) := by
  rw [ofText, toText_eq, Reader.ofText_pretty (d.reads_toTree .text) d.isWhole_toTree back]
  by_cases shallow : d.toTree.depth ≤ Json.maxDepth
  · simp only [if_pos shallow]
  · simp only [if_neg shallow]

/-- A document that was read from a text is nested no deeper than a text may be. -/
theorem depth_le_of_ofText {text : String} {d : Document} (h : ofText text = .ok d) :
    d.toTree.depth ≤ Json.maxDepth := by
  simp only [ofText, Reader.ofText] at h
  generalize Tree.scan text = scan at h
  obtain ⟨t, grammatical⟩ := scan
  cases read : Reader.list (StoredNode.shape.read .text) Json.maxDepth t with
  | error fault => simp [read] at h
  | ok nodes =>
    have eq : d = ⟨nodes⟩ := by
      simp only [read] at h
      cases grammatical with
      | true => exact (Except.ok.inj h).symm
      | false => cases h
    subst eq
    cases t with
    | array ts =>
      have each : ∀ w ∈ nodes, w.toTree.depth ≤ 126 := by
        intro w mem
        obtain ⟨u, -, readNode⟩ := Reader.mem_of_items read mem
        exact StoredNode.depth_toTree_le_of_read readNode
      rw [toTree, Tree.depth]
      have deepest := Tree.depthItems_le_iff.2 (List.forall_mem_map.2 each)
      exact Nat.add_le_add_left deepest 1
    | _ => simp [Reader.list, Json.maxDepth] at read

end Document

end EffectFlow
