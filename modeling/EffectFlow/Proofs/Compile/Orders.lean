import EffectFlow.Proofs.Compile.Visits
import EffectFlow.Proofs.Rebuild.Programs

/-!
# Orders in documents

A document is numbered as its nodes are: its orders, read from the branches that stand among the
parameters, are the orders of the nodes it was made of (`Document.orders_ofNodes`).  For this no
parameter may be taken for a branch.  Field rules may write under the name of a branch, but never
an array (`FieldRule.arrayFree_toParams`), so they do no harm.

So the orders in the document of a program count its nodes from zero (`Compiler.orders_document`),
whatever the links of the program and the rules of the compiler are.
-/

namespace EffectFlow

open Json (Value)

/-! ## Orders of lowered nodes -/

/-- An order as it stands in a document. -/
def storedOrder (order : UInt32) : Int64 := Int64.ofNat order.toNat

mutual

/-- The stored orders of a lowered node are those of its nodes, if no other array stands where a
branch may. -/
theorem Node.orders_entry_lower : ∀ {n : Node}, (∀ m ∈ n.preorder, ArrayFree m.params) →
    n.lower.entry.orders = n.orders.map storedOrder
  | .effect _ params _ _ _, free => by
    have here : ArrayFree params := free _ List.mem_cons_self
    rw [entry_lower_effect here]
    rfl
  | .gate _ params _ _ _, free => by
    rw [Node.preorder, List.forall_mem_cons, List.forall_mem_append] at free
    obtain ⟨(here : ArrayFree params), pass, fail⟩ := free
    rw [entry_lower_gate here, Entry.orders, Node.ordersOf_entries_lowerAll pass,
      Node.ordersOf_entries_lowerAll fail, Node.orders, List.map_cons, List.map_append]
    rfl

theorem Node.ordersOf_entries_lowerAll : ∀ {nodes : List Node},
    (∀ m ∈ Node.preorderAll nodes, ArrayFree m.params) →
      Entry.ordersOf ((Node.lowerAll nodes).map (·.entry)) = (Node.ordersOf nodes).map storedOrder
  | [], _ => rfl
  | _ :: _, free => by
    rw [Node.preorderAll, List.forall_mem_append] at free
    obtain ⟨here, there⟩ := free
    rw [Node.lowerAll, List.map_cons, Entry.ordersOf, Node.orders_entry_lower here,
      Node.ordersOf_entries_lowerAll there, Node.ordersOf, List.map_append]

end

/-- The orders in a document are those of the nodes it was made of. -/
theorem Document.orders_ofNodes {nodes : List Node}
    (free : ∀ n ∈ Node.preorderAll nodes, ArrayFree n.params) :
    (Document.ofNodes nodes).orders = (Node.ordersOf nodes).map storedOrder :=
  Node.ordersOf_entries_lowerAll free

/-- The first numbers stand in a document as they are. -/
theorem Node.NumberedAll.map_storedOrder {nodes : List Node} (numbered : NumberedAll 0 nodes)
    (small : sizes nodes ≤ words32) :
    (ordersOf nodes).map storedOrder = (List.range (sizes nodes)).map Int64.ofNat := by
  rw [numbered, ordersFrom, List.map_map, List.range_eq_range']
  refine List.map_congr_left fun k mem => ?_
  have below : k < 0 + sizes nodes := (List.mem_range'_1.1 mem).2
  have fits : k < UInt32.size := by
    rw [Nat.zero_add] at below
    exact Nat.lt_of_lt_of_le below small
  show Int64.ofNat (UInt32.ofNat k).toNat = Int64.ofNat k
  rw [UInt32.toNat_ofNat_of_lt' fits]

/-! ## What rules write -/

theorem ArrayFree.insert {params : Dict Value} (free : ArrayFree params) {key : String} {v : Value}
    (noArray : ∀ branch : Branch, branch.key = key → ∀ items, v.view ≠ .array items) :
    ArrayFree (params.insert key v) := by
  intro branch u found
  rw [Dict.get?_insert] at found
  split at found
  · next here =>
    cases found
    exact noArray branch here.symm
  · exact free branch u found

theorem view_referencePart (part : List Char) (items : List Value) :
    (referencePart part).view ≠ .array items := by
  rw [referencePart]
  split <;> simp

/-- A rule that reads fields with ordinary names writes no array under the name of a branch. -/
theorem FieldRule.arrayFree_toParams (rule : FieldRule) {fields params : Dict Value}
    (ordinary : BranchFree fields) (free : ArrayFree params) :
    ArrayFree (rule.toParams fields params) := by
  cases rule with
  | reference field zoneKey idKey =>
    rw [toParams]
    split
    · next zone id _ =>
      exact (free.insert fun _ _ => view_referencePart zone).insert
        fun _ _ => view_referencePart id
    · exact free
  | pair key first second =>
    rw [toParams]
    split
    · exact free
    · exact free.insert fun _ _ items => by simp
  | json field =>
    rw [toParams]
    split
    · next v found =>
      refine free.insert fun branch here => ?_
      rw [← here, ordinary branch] at found
      cases found
    · exact free

namespace Compiler

variable {c : Compiler} {p : Program}

theorem branchFree_writtenFields (c : Compiler) (b : Block) : BranchFree (c.writtenFields b) := by
  intro branch
  rw [get?_writtenFields, Option.filter_eq_none_iff]
  intro v _
  simp [admits, isReservedName_key]

/-- Rules put no array where a branch may stand. -/
theorem arrayFree_fold (rules : List FieldRule) {fields params : Dict Value}
    (ordinary : BranchFree fields) (free : ArrayFree params) :
    ArrayFree (fold rules fields params) := by
  induction rules generalizing params with
  | nil => exact free
  | cons rule rest ih => exact ih (rule.arrayFree_toParams ordinary free)

/-- No parameter of a block is taken for a branch, whatever the rules are. -/
theorem arrayFree_blockParams (c : Compiler) (b : Block) : ArrayFree (c.blockParams b) := by
  rw [blockParams_eq_fold]
  refine arrayFree_fold _ (branchFree_writtenFields c b) (BranchFree.arrayFree fun branch => ?_)
  rw [Dict.get?_filter, branchFree_writtenFields c b branch]
  rfl

/-- With the built-in rules no parameter stands under the name of a branch. -/
theorem branchFree_blockParams (builtIn : c.rules = .builtIn) (b : Block) :
    BranchFree (c.blockParams b) := by
  intro branch
  have other : branch.key ∉ (c.rules.rulesFor b.tag).flatMap (·.paramKeys) := by
    intro mem
    rw [builtIn] at mem
    have plain := isReservedName_of_mem_paramKeys mem
    rw [isReservedName_key] at plain
    cases plain
  rw [blockParams_eq_fold, get?_fold_of_notMem other, Dict.get?_filter,
    branchFree_writtenFields c b branch]
  rfl

/-! ## Compiled documents -/

theorem BuiltFrom.params_eq {h : Handle} {n : Node} (built : c.BuiltFrom p h n) :
    ∃ b ∈ p.blocks, n.params = c.blockParams b := by
  cases built with
  | effect there | gate there => exact ⟨_, List.mem_of_getElem? there, rfl⟩

/-- The stored orders of the document are those of its nodes. -/
theorem orders_eq_map_storedOrder (c : Compiler) (p : Program) :
    (c.document p).orders = (Node.ordersOf (c.compile p).nodes).map storedOrder := by
  refine Document.orders_ofNodes fun n mem => ?_
  obtain ⟨h, built⟩ := exists_builtFrom mem
  obtain ⟨b, -, params_eq⟩ := built.params_eq
  rw [params_eq]
  exact c.arrayFree_blockParams b

/-- The document of a program with `n` nodes holds the orders from zero to `n - 1`.  They are the
orders of the nodes, and `n` is the number of nodes that the compilation reports. -/
theorem orders_document (c : Compiler) (p : Program)
    (small : (Node.preorderAll (c.compile p).nodes).length < words32) :
    (c.document p).orders =
        (List.range (Node.preorderAll (c.compile p).nodes).length).map Int64.ofNat ∧
      (c.document p).orders = (Node.ordersOf (c.compile p).nodes).map storedOrder ∧
      (c.compile p).nodeCount = (Node.preorderAll (c.compile p).nodes).length := by
  rw [Node.length_preorderAll] at small ⊢
  refine ⟨?_, c.orders_eq_map_storedOrder p, rfl⟩
  rw [orders_eq_map_storedOrder]
  exact (c.numberedAll_compile p).map_storedOrder (Nat.le_of_lt small)

/-- A rule for the reference of a summons that writes it under the names of the branches. -/
def misnamed : Compiler :=
  { twoEffects with rules := ⟨[("effect_summon", .reference "creatureRef" "onPass" "onFail")]⟩ }

theorem orders_document_misnamed : (misnamed.document gatedSummons).orders = [0, 1, 2] := by
  have count : (misnamed.compile gatedSummons).nodeCount = 3 := by
    rw [nodeCount_compile, outline_gatedSummons]
    decide
  have length : (Node.preorderAll (misnamed.compile gatedSummons).nodes).length = 3 :=
    (Node.length_preorderAll _).trans count
  have counted := (orders_document misnamed gatedSummons (by rw [length]; decide)).1
  rw [length] at counted
  exact counted

end Compiler

end EffectFlow
