import EffectFlow.Proofs.Program.Trees
import EffectFlow.Proofs.Rebuild.Normalising

/-!
# Rebuilt programs are trees

The blocks of plans are laid out in one list, and every block but the first of a chain is the target
of one link in the list: of the block before it in its chain, or of the slot of its gate
(`Plan.perm_links_layoutChain`).  All links lead forward (`Plan.leadForward_layoutChain`), and only
gates have slots (`Compiler.FirstOf.slotsAtGate`).

So the program that is rebuilt from a document is a tree, whatever the document and the registry are
(`Compiler.isTree_rebuild`).
-/

namespace EffectFlow

/-! ## Links of blocks in sequence -/

/-- The links of blocks that stand from a handle on lead to later handles. -/
def LeadForward (start : Handle) : List Block → Prop
  | [] => True
  | b :: rest => (∀ t ∈ b.links, start < t) ∧ LeadForward (start + 1) rest

theorem leadForward_append {front back : List Block} {start : Handle}
    (inFront : LeadForward start front) (inBack : LeadForward (start + front.length) back) :
    LeadForward start (front ++ back) := by
  induction front generalizing start with
  | nil => exact inBack
  | cons b rest ih =>
    refine ⟨inFront.1, ih inFront.2 ?_⟩
    rw [Nat.add_assoc, Nat.add_comm 1]
    exact inBack

theorem LeadForward.lt_of_mem_links {blocks : List Block} {start : Handle}
    (forward : LeadForward start blocks) {i : Nat} {b : Block} (found : blocks[i]? = some b)
    {t : Handle} (link : t ∈ b.links) : start + i < t := by
  induction blocks generalizing start i with
  | nil => cases found
  | cons first rest ih =>
    cases i with
    | zero =>
      cases found
      exact forward.1 t link
    | succ i =>
      have later := ih forward.2 found
      rwa [Nat.add_assoc, Nat.add_comm 1] at later

namespace Plan

/-- The handle of the first block of some plans, if there are any. -/
def first (start : Handle) (plans : List Plan) : List Handle :=
  if plans.isEmpty then [] else [start]

theorem eq_of_mem_first {start t : Handle} {plans : List Plan} (mem : t ∈ first start plans) :
    t = start := by
  rw [first] at mem
  split at mem
  · cases mem
  · exact List.mem_singleton.1 mem

theorem toList_next (after : Handle) (rest : List Plan) :
    (if rest.isEmpty then none else some after).toList = first after rest := by
  rw [first]
  split <;> rfl

theorem sizes_eq_zero_iff {plans : List Plan} : sizes plans = 0 ↔ plans = [] := by
  cases plans with
  | nil => exact iff_of_true rfl rfl
  | cons plan rest =>
    exact iff_of_false (Nat.ne_of_gt (Nat.add_pos_left plan.size_pos _)) (List.cons_ne_nil _ _)

/-- The slots lead to the first blocks of the nested chains. -/
theorem perm_values_slots (passStart failStart : Handle) (onPass onFail : List Plan) :
    (withSlot (withSlot ∅ .onPass passStart onPass) .onFail failStart onFail).values.Perm
      (first passStart onPass ++ first failStart onFail) := by
  cases onPass with
  | nil => cases onFail <;> exact .refl _
  | cons =>
    cases onFail with
    | nil => exact .refl _
    | cons => exact .swap _ _ _

mutual

/-- Within a plan all blocks but the first are linked to, each once, and the last link leads to what
comes next. -/
theorem perm_links_layout : ∀ (plan : Plan) (start : Handle) (next : Option Handle),
    ((layout start next plan).flatMap Block.links).Perm
      (next.toList ++ List.range' (start + 1) (plan.size - 1))
  | .block tag fields onPass onFail, start, next => by
    have pass := perm_links_layoutChain onPass (start + 1)
    have fail := perm_links_layoutChain onFail (start + 1 + sizes onPass)
    have slots := perm_values_slots (start + 1) (start + 1 + sizes onPass) onPass onFail
    rw [layout, size, Nat.add_sub_cancel_left, ← List.range'_append_1, List.flatMap_cons,
      List.flatMap_append, Block.links, List.append_assoc]
    -- Each slot goes before the links of its own chain.
    refine .append_left _ (.trans (slots.append_right _) (.trans ?_ (pass.append fail)))
    rw [List.append_assoc, List.append_assoc]
    exact .append_left _ (List.perm_append_comm_assoc _ _ _)

/-- The blocks of some plans are linked to from the outside at the first of them, and all others
from within, each once. -/
theorem perm_links_layoutChain : ∀ (plans : List Plan) (start : Handle),
    (first start plans ++ (layoutChain start plans).flatMap Block.links).Perm
      (List.range' start (sizes plans))
  | [], _ => .refl _
  | plan :: rest, start => by
    have here := perm_links_layout plan start
      (if rest.isEmpty then none else some (start + plan.size))
    have later := perm_links_layoutChain rest (start + plan.size)
    rw [toList_next] at here
    obtain ⟨below, size_eq⟩ := Nat.exists_eq_add_one.2 plan.size_pos
    rw [layoutChain, sizes, ← List.range'_append_1, List.flatMap_append]
    have whole :
        List.range' start plan.size = start :: List.range' (start + 1) (plan.size - 1) := by
      rw [size_eq, List.range'_succ, Nat.add_sub_cancel]
    rw [whole, List.cons_append]
    -- The first block is linked to from the outside, and the next plan from this one.
    refine .cons start (.trans (here.append_right _) (.trans ?_ (later.append_left _)))
    rw [List.append_assoc]
    exact List.perm_append_comm_assoc _ _ _

end

mutual

/-- The blocks of a plan lead forward, if what comes next stands later. -/
theorem leadForward_layout : ∀ (plan : Plan) (start : Handle) (next : Option Handle),
    (∀ t ∈ next, start < t) → LeadForward start (layout start next plan)
  | .block tag fields onPass onFail, start, next, onward => by
    have pass := leadForward_layoutChain onPass (start + 1)
    have fail := leadForward_layoutChain onFail (start + 1 + sizes onPass)
    rw [layout]
    refine ⟨fun t link => ?_, leadForward_append pass (by rwa [length_layoutChain])⟩
    rcases List.mem_append.1 link with link | link
    · exact onward t (Option.mem_toList.1 link)
    · rcases List.mem_append.1 ((perm_values_slots _ _ onPass onFail).mem_iff.1 link)
        with head | head
      · rw [eq_of_mem_first head]
        exact Nat.lt_succ_self start
      · rw [eq_of_mem_first head]
        exact Nat.lt_of_lt_of_le (Nat.lt_succ_self start) (Nat.le_add_right _ _)

/-- The links of the blocks of some plans lead to later blocks. -/
theorem leadForward_layoutChain : ∀ (plans : List Plan) (start : Handle),
    LeadForward start (layoutChain start plans)
  | [], _ => trivial
  | plan :: rest, start => by
    have later := leadForward_layoutChain rest (start + plan.size)
    rw [layoutChain]
    refine leadForward_append (leadForward_layout plan start _ fun t next => ?_)
      (by rwa [length_layout])
    have head := Option.mem_toList.2 next
    rw [toList_next] at head
    rw [eq_of_mem_first head]
    exact Nat.lt_add_of_pos_right plan.size_pos

end

theorem get?_withSlot {slots : Dict Handle} {branch : Branch} {start : Handle} {plans : List Plan}
    {slot : String} {target : Handle}
    (found : (withSlot slots branch start plans).get? slot = some target) :
    branch.key = slot ∨ slots.get? slot = some target := by
  rw [withSlot] at found
  split at found
  · exact .inr found
  · rw [Dict.get?_insert] at found
    split at found
    · next here => exact .inl here
    · exact .inr found

end Plan

/-! ## Slots -/

/-- If the block has slots, it is a gate, and they have the names of branches. -/
def Block.SlotsAtGate (b : Block) : Prop :=
  ∀ slot target, b.slots.get? slot = some target →
    (∃ type, GateKind.ofTag? b.tag = some type) ∧ ∃ branch : Branch, branch.key = slot

namespace Compiler

variable {c : Compiler}

theorem FirstOf.slotsAtGate {n : Node} {b : Block} (isFirst : c.FirstOf n b) : b.SlotsAtGate := by
  obtain ⟨plan, start, next, made, first⟩ := isFirst
  intro slot target found
  cases n with
  | effect id params order trigger chance =>
    obtain ⟨tag, known, rfl⟩ := Option.map_eq_some_iff.1 made
    cases first
    cases found
  | gate type params order onPass onFail =>
    cases made
    cases first
    refine ⟨⟨type, GateKind.ofTag?_tag type⟩, ?_⟩
    rcases Plan.get?_withSlot found with onFail | found
    · exact ⟨_, onFail⟩
    · rcases Plan.get?_withSlot found with onPass | found
      · exact ⟨_, onPass⟩
      · cases found

/-! ## Rebuilt programs -/

theorem links_modify_position (blocks : List Block) (h : Handle) (place : Position) :
    (blocks.modify h fun b => { b with position := some place }).flatMap Block.links =
      blocks.flatMap Block.links := by
  rw [List.flatMap_def, List.flatMap_def]
  congr 1
  refine List.ext_getElem? fun i => ?_
  rw [List.getElem?_map, List.getElem?_map, List.getElem?_modify, Option.map_eq_map,
    Option.map_map]
  congr 1
  refine funext fun b => ?_
  show Block.links (if h = i then _ else _) = b.links
  split <;> rfl

/-- In a program that is rebuilt each block is linked to once, from a chain or from a block. -/
theorem perm_rebuild (c : Compiler) (d : Document) :
    ((c.rebuild d).chains ++ (c.rebuild d).blocks.flatMap Block.links).Perm
      (List.range (c.rebuild d).blocks.length) := by
  have laid := Plan.perm_links_layoutChain (c.plans d.lift) 0
  rw [rebuild_eq]
  split
  · exact .refl _
  · next nonempty =>
    have head : Plan.first 0 (c.plans d.lift) = [0] := by
      rw [Plan.first, List.isEmpty_eq_false_iff.2 nonempty]
      rfl
    rw [head, ← Plan.length_layoutChain (c.plans d.lift) 0, ← List.range_eq_range'] at laid
    show ([0] ++ (List.modify _ _ _).flatMap Block.links).Perm
      (List.range (List.modify _ _ _).length)
    rw [links_modify_position, List.length_modify]
    exact laid

theorem length_chains_rebuild (c : Compiler) (d : Document) :
    (c.rebuild d).chains.length = if (c.rebuild d).blocks = [] then 0 else 1 := by
  have empty_iff : (c.rebuild d).blocks = [] ↔ c.plans d.lift = [] := by
    rw [← List.length_eq_zero_iff, length_rebuild, Plan.sizes_eq_zero_iff]
  rw [if_congr empty_iff rfl rfl, chains_rebuild]
  split <;> rfl

/-- All links of a program that is rebuilt lead forward. -/
theorem leadsForward_rebuild (c : Compiler) (d : Document) : (c.rebuild d).LeadsForward := by
  intro h b there t link
  obtain ⟨laid, place, found, rfl⟩ := exists_laid_of_block? there
  have forward := (Plan.leadForward_layoutChain (c.plans d.lift) 0).lt_of_mem_links found link
  rwa [Nat.zero_add] at forward

/-- The program that is rebuilt from a document is a tree. -/
theorem isTree_rebuild (c : Compiler) (d : Document) : (c.rebuild d).IsTree where
  checked := Program.check_of_forward (c.perm_rebuild d) (c.leadsForward_rebuild d)
  chains := c.length_chains_rebuild d
  referred h lt := Program.existsUnique_refers (c.perm_rebuild d) lt
  reached h lt := Program.existsUnique_way (c.perm_rebuild d) (c.leadsForward_rebuild d) lt
  slots h b slot target there found := by
    obtain ⟨n, -, laid, place, isFirst, rfl⟩ := exists_first_of_block? there
    exact isFirst.slotsAtGate slot target found

end Compiler

end EffectFlow
