import EffectFlow.Proofs.Pipeline.Codec

/-!
# Lifting lowered nodes

A node is *sound* if a document can hold all of it: effects have a number that is not zero and a
chance that is a percentage, and no parameter stands under the name of a branch.

Lifting gives a sound node back from its lowered form (`Node.lift_lower`), branches at every depth
among it, and so a whole document (`Document.lift_ofNodes`).
-/

namespace EffectFlow

open Json (Value)

/-! ## Words -/

theorem toInt_ofNat_word32 (n : UInt32) : (Int64.ofNat n.toNat).toInt = n.toNat :=
  Int64.toInt_ofNat_of_lt (Nat.lt_trans n.toNat_lt (by decide))

theorem word32?_ofNat (n : UInt32) : word32? (Int64.ofNat n.toNat) = some n := by
  have small : n.toNat < words32 := n.toNat_lt
  have range : (0 : Int) ≤ n.toNat ∧ (n.toNat : Int) < words32 :=
    ⟨Int.natCast_nonneg _, Int.ofNat_lt.2 small⟩
  rw [word32?, toInt_ofNat_word32, if_pos range, Int.toNat_natCast, UInt32.ofNat_toNat]

theorem toInt_ofNat_byte (n : UInt8) : (Int64.ofNat n.toNat).toInt = n.toNat :=
  Int64.toInt_ofNat_of_lt (Nat.lt_trans n.toNat_lt (by decide))

/-! ## Sound nodes -/

/-- No parameter stands under the name of a branch. -/
def BranchFree (params : Dict Value) : Prop := ∀ branch : Branch, params.get? branch.key = none

/-- What stands under the name of a branch, if anything does, is no array. -/
def ArrayFree (params : Dict Value) : Prop :=
  ∀ branch : Branch, ∀ v, params.get? branch.key = some v → ∀ items, v.view ≠ .array items

theorem BranchFree.arrayFree {params : Dict Value} (free : BranchFree params) :
    ArrayFree params := by
  intro branch v found
  rw [free branch] at found
  cases found

namespace Node

mutual

/-- A document can hold all of the node. -/
def Sound : Node → Prop
  | effect id params _ _ chance => id ≠ 0 ∧ chance.toNat ≤ 100 ∧ BranchFree params
  | gate _ params _ onPass onFail => BranchFree params ∧ SoundAll onPass ∧ SoundAll onFail
termination_by structural node => node

/-- A document can hold all of the nodes. -/
def SoundAll : List Node → Prop
  | [] => True
  | node :: rest => Sound node ∧ SoundAll rest
termination_by structural nodes => nodes

end

end Node

/-! ## Branches among the parameters -/

/-- Nodes of a branch stand under its key, if there are any, and all else stays. -/
theorem get?_withBranch (params : Dict Value) (branch : Branch) (nodes : List StoredNode)
    (key : String) :
    (withBranch params branch nodes).get? key =
      if branch.key = key ∧ nodes ≠ [] then some (Value.array (nodes.map (·.toValue)))
      else params.get? key := by
  rw [withBranch]
  cases nodes with
  | nil => simp
  | cons w rest => simp [Dict.get?_insert]

/-- The parameters that a gate is written with. -/
theorem get?_gateParams (params : Dict Value) (onPass onFail : List StoredNode) (key : String) :
    (withBranch (withBranch params .onPass onPass) .onFail onFail).get? key =
      if Branch.onFail.key = key ∧ onFail ≠ [] then
        some (Value.array (onFail.map (·.toValue)))
      else if Branch.onPass.key = key ∧ onPass ≠ [] then
        some (Value.array (onPass.map (·.toValue)))
      else params.get? key := by
  rw [get?_withBranch, get?_withBranch]

/-- The entries of a branch are those of the nodes that it is written from. -/
theorem StoredNode.entries_of_items {w : StoredNode} {branch : Branch} {nodes : List StoredNode}
    (h : w.items branch.key = nodes.map (·.toValue)) :
    w.entries branch = nodes.map (·.entry) := by
  rw [entries, h]
  refine List.ext_getElem (by simp) fun i inItems inNodes => ?_
  rw [List.getElem_mapIdx, List.getElem_map, List.getElem_map]
  exact Entry.ofItem_of_ok (ofValue_toValue _)

theorem StoredNode.items_eq_nil {w : StoredNode} {key : String}
    (noArray : ∀ v, w.params.get? key = some v → ∀ items, v.view ≠ .array items) :
    w.items key = [] := by
  rw [items, items?]
  cases found : w.params.get? key with
  | none => rfl
  | some v =>
    cases view : v.view with
    | array items => exact absurd view (noArray v found items)
    | null | bool | number | text | object => simp [view]

/-- Where no array stood before, the items are those of the nodes. -/
theorem StoredNode.items_of_get? {w : StoredNode} {key : String} {nodes : List StoredNode}
    {before : Option Value}
    (found : w.params.get? key =
      if nodes = [] then before else some (Value.array (nodes.map (·.toValue))))
    (noArray : ∀ v, before = some v → ∀ items, v.view ≠ .array items) :
    w.items key = nodes.map (·.toValue) := by
  cases nodes with
  | nil =>
    rw [if_pos rfl] at found
    exact items_eq_nil (found ▸ noArray)
  | cons u rest =>
    rw [if_neg (List.cons_ne_nil u rest)] at found
    simp [items, items?, found]

/-- The branches of a lowered effect are empty. -/
theorem entry_lower_effect {id : UInt32} {params : Dict Value} {order : UInt32}
    {trigger : Option Trigger} {chance : UInt8} (free : ArrayFree params) :
    (Node.effect id params order trigger chance).lower.entry =
      .node (Node.effect id params order trigger chance).lower [] [] := by
  have empty : ∀ branch,
      (Node.effect id params order trigger chance).lower.entries branch = [] := by
    intro branch
    rw [StoredNode.entries, StoredNode.items_eq_nil (free branch)]
    rfl
  rw [StoredNode.entry, empty, empty]

/-- The branches of a lowered gate hold the lowered nodes. -/
theorem entry_lower_gate {type : GateKind} {params : Dict Value} {order : UInt32}
    {onPass onFail : List Node} (free : ArrayFree params) :
    (Node.gate type params order onPass onFail).lower.entry =
      .node (Node.gate type params order onPass onFail).lower
        ((Node.lowerAll onPass).map (·.entry)) ((Node.lowerAll onFail).map (·.entry)) := by
  have pass : (Node.gate type params order onPass onFail).lower.params.get? Branch.onPass.key =
      if Node.lowerAll onPass = [] then params.get? Branch.onPass.key
      else some (Value.array ((Node.lowerAll onPass).map (·.toValue))) := by
    rw [Node.lower, get?_gateParams]
    by_cases empty : Node.lowerAll onPass = [] <;> simp [empty, Branch.key]
  have fail : (Node.gate type params order onPass onFail).lower.params.get? Branch.onFail.key =
      if Node.lowerAll onFail = [] then params.get? Branch.onFail.key
      else some (Value.array ((Node.lowerAll onFail).map (·.toValue))) := by
    rw [Node.lower, get?_gateParams]
    by_cases empty : Node.lowerAll onFail = [] <;> simp [empty, Branch.key]
  rw [StoredNode.entry,
    StoredNode.entries_of_items (StoredNode.items_of_get? pass (free .onPass)),
    StoredNode.entries_of_items (StoredNode.items_of_get? fail (free .onFail))]

/-- Without its branches a gate has the parameters it was lowered with. -/
theorem plainParams_gateParams {params : Dict Value} (free : BranchFree params)
    (onPass onFail : List StoredNode) :
    (withBranch (withBranch params .onPass onPass) .onFail onFail).filter
        (fun key _ => !Branch.all.any (·.key == key)) = params := by
  refine Dict.ext_get? fun key => ?_
  rw [Dict.get?_filter, get?_gateParams]
  by_cases pass : Branch.onPass.key = key
  · subst pass
    rw [free .onPass]
    exact Option.filter_eq_none_iff.2 fun v _ => by decide
  · by_cases fail : Branch.onFail.key = key
    · subst fail
      rw [free .onFail]
      exact Option.filter_eq_none_iff.2 fun v _ => by decide
    · have plain : (!Branch.all.any (·.key == key)) = true := by simp [pass, fail, Branch.all]
      rw [if_neg fun both => fail both.1, if_neg fun both => pass both.1]
      cases params.get? key with
      | none => rfl
      | some v => exact Option.filter_some_pos plain

/-- All parameters are plain where none stands under the key of a branch. -/
theorem plainParams_of_branchFree {params : Dict Value} (free : BranchFree params) :
    params.filter (fun key _ => !Branch.all.any (·.key == key)) = params :=
  plainParams_gateParams free [] []

/-! ## Lifting -/

/-- The head of a lowered effect is read back, unless its number is zero. -/
theorem head_lower_effect {id order : UInt32} {params : Dict Value} {trigger : Option Trigger}
    {chance : UInt8} (nonzero : id ≠ 0) :
    (Node.effect id params order trigger chance).lower.head = .ok (order, .effect id) := by
  have positive : (some id).filter (· ≠ 0) = some id := Option.filter_some_pos (by simp [nonzero])
  rw [Node.lower, StoredNode.head]
  simp only [word32?_ofNat, StoredNode.kind, positive, Except.map]

/-- The head of a lowered gate is read back. -/
theorem head_lower_gate {type : GateKind} {params : Dict Value} {order : UInt32}
    {onPass onFail : List Node} :
    (Node.gate type params order onPass onFail).lower.head = .ok (order, .gate type) := by
  rw [Node.lower, StoredNode.head]
  simp [word32?_ofNat, StoredNode.kind, GateKind.ofName?_name, Except.map]

theorem clampedChance_ofNat {w : StoredNode} {chance : UInt8} (percent : chance.toNat ≤ 100)
    (h : w.chance = Int64.ofNat chance.toNat) : w.clampedChance = chance := by
  have clamped : max 0 (min 100 (chance.toNat : Int)) = chance.toNat := by omega
  rw [StoredNode.clampedChance, h, toInt_ofNat_byte, clamped, Int.toNat_natCast, UInt8.ofNat_toNat]

theorem bind_ofName?_map_name (trigger : Option Trigger) :
    (trigger.map (·.name)).bind Trigger.ofName? = trigger := by
  cases trigger with
  | none => rfl
  | some t => exact Trigger.ofName?_name t

mutual

/-- A sound node is lifted back from its lowered form. -/
theorem Node.lift_lower : ∀ {n : Node}, n.Sound → n.lower.entry.lift = .ok n
  | .effect id params order trigger chance, ⟨nonzero, percent, free⟩ => by
    have params_eq : (Node.effect id params order trigger chance).lower.plainParams = params :=
      plainParams_of_branchFree free
    have chance_eq : (Node.effect id params order trigger chance).lower.clampedChance = chance :=
      clampedChance_ofNat percent rfl
    rw [StoredNode.entry, Entry.lift, head_lower_effect nonzero]
    show Except.ok (Node.effect id _ order ((trigger.map (·.name)).bind Trigger.ofName?) _) = _
    rw [params_eq, chance_eq, bind_ofName?_map_name]
  | .gate type params order onPass onFail, ⟨free, soundPass, soundFail⟩ => by
    have params_eq : (Node.gate type params order onPass onFail).lower.plainParams = params :=
      plainParams_gateParams free _ _
    rw [entry_lower_gate free.arrayFree, Entry.lift, head_lower_gate]
    show Except.ok (Node.gate type _ order _ _) = _
    rw [params_eq, Node.liftAll_lowerAll soundPass, Node.liftAll_lowerAll soundFail]

/-- So are the nodes of a list that is sound. -/
theorem Node.liftAll_lowerAll : ∀ {nodes : List Node}, Node.SoundAll nodes →
    Entry.liftAll ((Node.lowerAll nodes).map (·.entry)) = nodes
  | [], _ => rfl
  | n :: rest, ⟨sound, soundRest⟩ => by
    rw [Node.lowerAll, List.map_cons, Entry.liftAll, Node.lift_lower sound,
      Node.liftAll_lowerAll soundRest]

end

/-- The nodes of a document of sound nodes are lifted back. -/
theorem Document.lift_ofNodes {nodes : List Node} (sound : Node.SoundAll nodes) :
    (Document.ofNodes nodes).lift = nodes :=
  Node.liftAll_lowerAll sound

end EffectFlow
