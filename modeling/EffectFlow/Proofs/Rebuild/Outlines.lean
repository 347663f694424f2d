import EffectFlow.Compile.Outline
import EffectFlow.Proofs.Program.Chains
import EffectFlow.Rebuild.Layout

/-!
# Outlines of rebuilt programs

A program *holds* some blocks from a handle on if they stand there in sequence, each at any place
on the canvas (`Program.Holds`).  A walk through a program that holds the blocks of some plans comes
upon the plans: the walk along a chain passes the first blocks of its plans (`Program.chain_heads`),
and the outline is read off the plans (`Program.outlineWithin_heads`).
-/

namespace EffectFlow

/-! ## Blocks in sequence -/

namespace Program

/-- The blocks stand in the program from a handle on, each at some place on the canvas. -/
def Holds (p : Program) (start : Handle) (blocks : List Block) : Prop :=
  ∀ i b, blocks[i]? = some b → ∃ place, p.block? (start + i) = some { b with position := place }

variable {p : Program} {start : Handle}

theorem Holds.head {b : Block} {rest : List Block} (h : p.Holds start (b :: rest)) :
    ∃ place, p.block? start = some { b with position := place } :=
  h 0 b rfl

theorem Holds.tail {b : Block} {rest : List Block} (h : p.Holds start (b :: rest)) :
    p.Holds (start + 1) rest := by
  intro i x found
  obtain ⟨place, there⟩ := h (i + 1) x found
  refine ⟨place, ?_⟩
  rw [← there, Nat.add_right_comm, Nat.add_assoc]

theorem Holds.left {front back : List Block} (h : p.Holds start (front ++ back)) :
    p.Holds start front := by
  intro i x found
  refine h i x ?_
  rw [List.getElem?_append_left (List.getElem?_eq_some_iff.1 found).1]
  exact found

theorem Holds.right {front back : List Block} (h : p.Holds start (front ++ back)) :
    p.Holds (start + front.length) back := by
  intro i x found
  have back_found : (front ++ back)[front.length + i]? = some x := by
    rw [List.getElem?_append_right (Nat.le_add_right _ _), Nat.add_sub_cancel_left]
    exact found
  obtain ⟨place, there⟩ := h (front.length + i) x back_found
  exact ⟨place, by rw [← there, Nat.add_assoc]⟩

end Program

/-! ## Plans in sequence -/

namespace Plan

mutual

theorem length_layout : ∀ (plan : Plan) (start : Handle) (next : Option Handle),
    (layout start next plan).length = size plan
  | .block tag fields onPass onFail, start, next => by
    rw [layout, List.length_cons, List.length_append, length_layoutChain onPass,
      length_layoutChain onFail, size, Nat.add_comm]

theorem length_layoutChain : ∀ (plans : List Plan) (start : Handle),
    (layoutChain start plans).length = sizes plans
  | [], _ => rfl
  | plan :: rest, start => by
    rw [layoutChain, List.length_append, length_layout plan, length_layoutChain rest, sizes]

end

theorem size_pos (plan : Plan) : 0 < plan.size := by
  obtain ⟨tag, fields, onPass, onFail⟩ := plan
  rw [size]
  omega

/-- The handles of the first blocks of some plans. -/
def heads (start : Handle) : List Plan → List Handle
  | [] => []
  | plan :: rest => start :: heads (start + plan.size) rest

mutual

/-- What a walk comes upon at the first block of a plan. -/
def outline (start : Handle) : Plan → Outline
  | block tag _ onPass onFail =>
    match GateKind.ofTag? tag with
    | none => .plain start tag
    | some type =>
      .gate start tag type (outlines (start + 1) onPass)
        (outlines (start + 1 + sizes onPass) onFail)
termination_by structural plan => plan

/-- What a walk comes upon along the first blocks of some plans. -/
def outlines (start : Handle) : List Plan → List Outline
  | [] => []
  | plan :: rest => outline start plan :: outlines (start + size plan) rest
termination_by structural plans => plans

end

section slots

variable (passStart failStart : Handle) (onPass onFail : List Plan)

/-- The slot of the pass branch leads to its first block, if there is one. -/
theorem get?_passSlot :
    (withSlot (withSlot ∅ .onPass passStart onPass) .onFail failStart onFail).get?
        Branch.onPass.key = if onPass = [] then none else some passStart := by
  rw [withSlot, withSlot]
  cases onFail <;> cases onPass <;> simp [Dict.get?_insert, Branch.key] <;> rfl

/-- The slot of the fail branch leads to its first block, if there is one. -/
theorem get?_failSlot :
    (withSlot (withSlot ∅ .onPass passStart onPass) .onFail failStart onFail).get?
        Branch.onFail.key = if onFail = [] then none else some failStart := by
  rw [withSlot, withSlot]
  cases onFail <;> cases onPass <;> simp [Dict.get?_insert, Branch.key] <;> rfl

end slots

end Plan

namespace Program

variable {p : Program}

/-! ## Plans that a program holds -/

section laidOut

variable {start : Handle} {next : Option Handle} {tag : String} {fields : Dict Json.Value}
  {plan : Plan} {onPass onFail rest : List Plan}

/-- The first block of a plan that is laid out has the tag and the fields of the plan, and its slots
lead to the plans of the branches. -/
theorem Holds.firstBlock
    (holds : p.Holds start (Plan.layout start next (.block tag fields onPass onFail))) :
    ∃ position, p.block? start = some {
      tag, fields, next, position
      slots := Plan.withSlot (Plan.withSlot ∅ .onPass (start + 1) onPass) .onFail
        (start + 1 + Plan.sizes onPass) onFail } := by
  rw [Plan.layout] at holds
  exact holds.head

/-- The plans on pass are laid out right behind the first block. -/
theorem Holds.passPlans
    (holds : p.Holds start (Plan.layout start next (.block tag fields onPass onFail))) :
    p.Holds (start + 1) (Plan.layoutChain (start + 1) onPass) := by
  rw [Plan.layout] at holds
  exact holds.tail.left

/-- The plans on fail are laid out behind those on pass. -/
theorem Holds.failPlans
    (holds : p.Holds start (Plan.layout start next (.block tag fields onPass onFail))) :
    p.Holds (start + 1 + Plan.sizes onPass)
      (Plan.layoutChain (start + 1 + Plan.sizes onPass) onFail) := by
  rw [Plan.layout] at holds
  have behind := holds.tail.right
  rwa [Plan.length_layoutChain] at behind

theorem Holds.firstPlan (holds : p.Holds start (Plan.layoutChain start (plan :: rest))) :
    p.Holds start
      (plan.layout start (if rest.isEmpty then none else some (start + plan.size))) := by
  rw [Plan.layoutChain] at holds
  exact holds.left

theorem Holds.laterPlans (holds : p.Holds start (Plan.layoutChain start (plan :: rest))) :
    p.Holds (start + plan.size) (Plan.layoutChain (start + plan.size) rest) := by
  rw [Plan.layoutChain] at holds
  have behind := holds.right
  rwa [Plan.length_layout] at behind

end laidOut

/-! ## Chains -/

/-- The first block of a plan is linked to the first block of the next plan. -/
theorem next?_head {plan : Plan} {rest : List Plan} {start : Handle}
    (holds : p.Holds start (Plan.layoutChain start (plan :: rest))) :
    p.next? start = if rest.isEmpty then none else some (start + plan.size) := by
  obtain ⟨tag, fields, onPass, onFail⟩ := plan
  obtain ⟨place, there⟩ := holds.firstPlan.firstBlock
  exact next?_of_block? there

/-- A walk along a chain of plans passes their first blocks. -/
theorem chainAfter_heads {plans : List Plan} {start : Handle} {seen : List Handle}
    (nonempty : plans ≠ []) (passed : ∀ h ∈ seen, h < start)
    (holds : p.Holds start (Plan.layoutChain start plans)) :
    p.chainAfter seen start = Plan.heads start plans := by
  induction plans generalizing start seen with
  | nil => exact absurd rfl nonempty
  | cons plan rest ih =>
    have new : start ∉ seen := fun mem => Nat.lt_irrefl start (passed start mem)
    rw [chainAfter_of_notMem new, next?_head holds, Plan.heads]
    cases rest with
    | nil => rfl
    | cons q qs =>
      -- All that was passed lies before the rest, so the walk meets none of it again.
      have grown : start < start + plan.size := Nat.lt_add_of_pos_right plan.size_pos
      have passed' : ∀ h ∈ start :: seen, h < start + plan.size := by
        intro h mem
        rcases List.mem_cons.1 mem with rfl | mem
        · exact grown
        · exact Nat.lt_trans (passed h mem) grown
      exact congrArg (start :: ·) (ih (List.cons_ne_nil q qs) passed' holds.laterPlans)

theorem chain_heads {plans : List Plan} {start : Handle} (nonempty : plans ≠ [])
    (holds : p.Holds start (Plan.layoutChain start plans)) :
    p.chain start = Plan.heads start plans :=
  chainAfter_heads nonempty (fun _ mem => nomatch mem) holds

/-! ## Outlines -/

/-- The outline of the nested chain in a slot of a gate. -/
def branchOutline (p : Program) (gates : List Handle) (b : Block) (branch : Branch) :
    List Outline :=
  match b.slots.get? branch.key with
  | some head => p.outlineWithin gates (p.chain head)
  | none => []

theorem outlineWithin_cons_plain {gates rest : List Handle} {h : Handle} {b : Block}
    (there : p.block? h = some b) (plain : GateKind.ofTag? b.tag = none) :
    p.outlineWithin gates (h :: rest) = .plain h b.tag :: p.outlineWithin gates rest := by
  rw [outlineWithin]
  congr 1
  split
  · next missing =>
    rw [there] at missing
    cases missing
  · next found =>
    cases there.symm.trans found
    simp only [plain]

/-- A gate that is not entered yet is outlined with its branches. -/
theorem outlineWithin_cons_gate {gates rest : List Handle} {h : Handle} {b : Block}
    {type : GateKind} (there : p.block? h = some b) (isGate : GateKind.ofTag? b.tag = some type)
    (new : h ∉ gates) :
    p.outlineWithin gates (h :: rest) =
      .gate h b.tag type (p.branchOutline (h :: gates) b .onPass)
        (p.branchOutline (h :: gates) b .onFail) :: p.outlineWithin gates rest := by
  rw [outlineWithin]
  congr 1
  split
  · next missing =>
    rw [there] at missing
    cases missing
  · next found =>
    cases there.symm.trans found
    simp only [isGate, dif_neg new]
    rfl

/-- The nested chain of a plan is walked as the plans it was laid out from. -/
theorem branchOutline_of_slot {gates : List Handle} {b : Block} {branch : Branch} {start : Handle}
    {plans : List Plan}
    (slot : b.slots.get? branch.key = if plans = [] then none else some start)
    (holds : p.Holds start (Plan.layoutChain start plans))
    (walk : p.outlineWithin gates (Plan.heads start plans) = Plan.outlines start plans) :
    p.branchOutline gates b branch = Plan.outlines start plans := by
  cases plans with
  | nil =>
    simp only [branchOutline, slot, if_true]
    rfl
  | cons plan rest =>
    simp only [branchOutline, slot, List.cons_ne_nil, if_false]
    rw [chain_heads (List.cons_ne_nil plan rest) holds, walk]

mutual

/-- The walk comes upon a plan at its first block. -/
theorem outlineWithin_head : ∀ (plan : Plan) {start : Handle} {next : Option Handle}
    {gates rest : List Handle}, p.Holds start (Plan.layout start next plan) →
      (∀ g ∈ gates, g < start) →
        p.outlineWithin gates (start :: rest) =
          plan.outline start :: p.outlineWithin gates rest
  | .block tag fields onPass onFail, start, next, gates, rest, holds, passed => by
    obtain ⟨place, there⟩ := holds.firstBlock
    have new : start ∉ gates := fun mem => Nat.lt_irrefl start (passed start mem)
    rw [Plan.outline]
    cases isGate : GateKind.ofTag? tag with
    | none => exact outlineWithin_cons_plain there isGate
    | some type =>
      have inside : ∀ first, start + 1 ≤ first → ∀ g ∈ start :: gates, g < first := by
        intro first later g mem
        rcases List.mem_cons.1 mem with rfl | mem
        · exact later
        · exact Nat.lt_trans (passed g mem) later
      rw [outlineWithin_cons_gate there isGate new,
        branchOutline_of_slot (Plan.get?_passSlot _ _ _ _) holds.passPlans
          (outlineWithin_heads onPass holds.passPlans (inside _ (Nat.le_refl _))),
        branchOutline_of_slot (Plan.get?_failSlot _ _ _ _) holds.failPlans
          (outlineWithin_heads onFail holds.failPlans (inside _ (Nat.le_add_right _ _)))]

/-- The walk comes upon some plans along their first blocks. -/
theorem outlineWithin_heads : ∀ (plans : List Plan) {start : Handle} {gates : List Handle},
    p.Holds start (Plan.layoutChain start plans) → (∀ g ∈ gates, g < start) →
      p.outlineWithin gates (Plan.heads start plans) = Plan.outlines start plans
  | [], start, gates, _, _ => by
    rw [Plan.heads, Plan.outlines, outlineWithin]
  | plan :: rest, start, gates, holds, passed => by
    have later : ∀ g ∈ gates, g < start + plan.size :=
      fun g mem => Nat.lt_of_lt_of_le (passed g mem) (Nat.le_add_right _ _)
    rw [Plan.heads, Plan.outlines, outlineWithin_head plan holds.firstPlan passed,
      outlineWithin_heads rest holds.laterPlans later]

end

/-! ## Rebuilt programs -/

theorem holds_addChain (blocks : List Block) (chains : List Handle) (head : Handle)
    (position : Position) : (Program.addChain ⟨blocks, chains⟩ head position).Holds 0 blocks := by
  intro i b found
  have there : (Program.addChain ⟨blocks, chains⟩ head position).block? (0 + i) =
      (blocks.modify head fun b => { b with position := some position })[i]? := by
    rw [Nat.zero_add]
    rfl
  rw [there, List.getElem?_modify, found]
  by_cases atHead : head = i
  · exact ⟨some position, by simp [atHead]⟩
  · exact ⟨b.position, by simp [atHead]⟩

end Program

namespace Compiler

/-- A document is rebuilt as one chain of its plans, or to nothing if there are none. -/
theorem rebuild_eq (c : Compiler) (d : Document) :
    c.rebuild d =
      if c.plans d.lift = [] then .empty
      else Program.addChain ⟨Plan.layoutChain 0 (c.plans d.lift), []⟩ 0 c.config.layoutOrigin := by
  rw [rebuild, rebuildInto]
  cases plans : c.plans d.lift with
  | nil => rfl
  | cons plan rest => rfl

/-- A rebuilt program holds the blocks of its plans. -/
theorem holds_rebuild (c : Compiler) (d : Document) :
    (c.rebuild d).Holds 0 (Plan.layoutChain 0 (c.plans d.lift)) := by
  rw [rebuild_eq]
  split
  · next empty =>
    rw [empty]
    intro i b found
    cases found
  · exact Program.holds_addChain _ _ _ _

/-- A program that is rebuilt has one chain, which starts at the first block, or none. -/
theorem chains_rebuild (c : Compiler) (d : Document) :
    (c.rebuild d).chains = if c.plans d.lift = [] then [] else [0] := by
  rw [rebuild_eq]
  split <;> rfl

theorem length_rebuild (c : Compiler) (d : Document) :
    (c.rebuild d).blocks.length = Plan.sizes (c.plans d.lift) := by
  rw [rebuild_eq]
  split
  · next empty =>
    rw [empty]
    rfl
  · exact (List.length_modify _ _ _).trans (Plan.length_layoutChain _ 0)

/-- Every block of a rebuilt program was laid out, but for its place on the canvas. -/
theorem exists_laid_of_block? {c : Compiler} {d : Document} {h : Handle} {b : Block}
    (there : (c.rebuild d).block? h = some b) :
    ∃ laid place, (Plan.layoutChain 0 (c.plans d.lift))[h]? = some laid ∧
      b = { laid with position := place } := by
  have lt := Program.lt_of_block? there
  rw [length_rebuild, ← Plan.length_layoutChain _ 0] at lt
  have found := List.getElem?_eq_getElem lt
  obtain ⟨place, held⟩ := c.holds_rebuild d h _ found
  rw [Nat.zero_add, there] at held
  exact ⟨_, place, found, Option.some.inj held⟩

/-- A walk through a rebuilt program comes upon its plans. -/
theorem outline_rebuild (c : Compiler) (d : Document) :
    (c.rebuild d).outline = Plan.outlines 0 (c.plans d.lift) := by
  have holds := c.holds_rebuild d
  rw [Program.outline, chains_rebuild]
  split
  · next empty =>
    rw [empty]
    rfl
  · next nonempty =>
    rw [List.flatMap_singleton, Program.outlineOf, Program.chain_heads nonempty holds]
    exact Program.outlineWithin_heads _ holds fun _ mem => nomatch mem

end Compiler

end EffectFlow
