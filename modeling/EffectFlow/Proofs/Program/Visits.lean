import EffectFlow.Proofs.Program.Acyclic
import EffectFlow.Proofs.Rebuild.Outlines
import Mathlib.Data.List.Forall2

/-!
# Visit lists

The *visit list* of a block follows the links to the next block, and puts after each gate the visit
list of its slot on pass and then that of its slot on fail (`Program.Visits`).  The visit list of a
program is that of its chains, one after the other (`Program.VisitList`).  It knows nothing of
blocks that were passed before, or of gates that are being walked.

A sound program has exactly one visit list, and the outline of the program lists the same blocks
(`Program.visitList_outline`).  Nothing in that outline is missing or marked as a loop
(`Program.allWhole_outline`).
-/

namespace EffectFlow

/-! ## The blocks of an outline -/

namespace Outline

mutual

/-- The handles in an outline, each gate before what is nested in it. -/
def handles : Outline → List Handle
  | missing h => [h]
  | plain h _ => [h]
  | gate h _ _ onPass onFail => h :: (handlesOf onPass ++ handlesOf onFail)
  | loop h _ => [h]
termination_by structural outline => outline

/-- The handles in some outlines. -/
def handlesOf : List Outline → List Handle
  | [] => []
  | o :: rest => handles o ++ handlesOf rest
termination_by structural outlines => outlines

end

mutual

/-- Nothing in the outline is missing, and no gate stands inside itself. -/
def Whole : Outline → Prop
  | missing _ => False
  | plain _ _ => True
  | gate _ _ _ onPass onFail => AllWhole onPass ∧ AllWhole onFail
  | loop _ _ => False
termination_by structural outline => outline

/-- The outlines are whole. -/
def AllWhole : List Outline → Prop
  | [] => True
  | o :: rest => Whole o ∧ AllWhole rest
termination_by structural outlines => outlines

end

theorem handlesOf_append (front back : List Outline) :
    handlesOf (front ++ back) = handlesOf front ++ handlesOf back := by
  induction front with
  | nil => rfl
  | cons o rest ih => rw [List.cons_append, handlesOf, handlesOf, ih, List.append_assoc]

theorem allWhole_append {front back : List Outline} (hf : AllWhole front) (hb : AllWhole back) :
    AllWhole (front ++ back) := by
  induction front with
  | nil => exact hb
  | cons o rest ih => exact ⟨hf.1, ih hf.2⟩

end Outline

namespace Program

variable {p : Program}

/-! ## The blocks that are visited -/

/-- The visit list from a block on, if there is one. -/
inductive Visits (p : Program) : Option Handle → List Handle → Prop
  | stop : p.Visits none []
  | plain {h : Handle} {b : Block} {rest : List Handle} (there : p.block? h = some b)
      (noGate : GateKind.ofTag? b.tag = none) (next : p.Visits b.next rest) :
      p.Visits (some h) (h :: rest)
  | gate {h : Handle} {b : Block} {type : GateKind} {pass fail rest : List Handle}
      (there : p.block? h = some b) (isGate : GateKind.ofTag? b.tag = some type)
      (onPass : p.Visits (b.slots.get? Branch.onPass.key) pass)
      (onFail : p.Visits (b.slots.get? Branch.onFail.key) fail) (next : p.Visits b.next rest) :
      p.Visits (some h) (h :: (pass ++ fail ++ rest))

/-- The list is the visit lists of the chains, one after the other. -/
def VisitList (p : Program) (visited : List Handle) : Prop :=
  ∃ parts, List.Forall₂ (fun head part => p.Visits (some head) part) p.chains parts ∧
    visited = parts.flatten

/-- There is one way only to visit what stands behind a link. -/
theorem Visits.unique {start : Option Handle} {one other : List Handle} (h : p.Visits start one)
    (h' : p.Visits start other) : one = other := by
  induction h generalizing other with
  | stop =>
    cases h'
    rfl
  | plain there noGate _ ih =>
    cases h' with
    | plain there' _ next' =>
      cases there.symm.trans there'
      rw [ih next']
    | gate there' isGate' =>
      cases there.symm.trans there'
      rw [noGate] at isGate'
      cases isGate'
  | gate there isGate _ _ _ ihPass ihFail ihNext =>
    cases h' with
    | plain there' noGate' =>
      cases there.symm.trans there'
      rw [isGate] at noGate'
      cases noGate'
    | gate there' _ onPass' onFail' next' =>
      cases there.symm.trans there'
      rw [ihPass onPass', ihFail onFail', ihNext next']

/-- A program has one list of visits only. -/
theorem VisitList.unique {one other : List Handle} (h : p.VisitList one)
    (h' : p.VisitList other) : one = other := by
  obtain ⟨parts, each, rfl⟩ := h
  obtain ⟨parts', each', rfl⟩ := h'
  have rightUnique : Relator.RightUnique fun head part => p.Visits (some head) part :=
    fun _ _ _ h h' => h.unique h'
  rw [List.right_unique_forall₂' rightUnique each each']

/-! ## Walks that fall in rank -/

/-- The chain from a block on, if there is one. -/
def chainFrom (p : Program) : Option Handle → List Handle
  | none => []
  | some h => p.chain h

theorem branchOutline_eq (gates : List Handle) (b : Block) (branch : Branch) :
    p.branchOutline gates b branch =
      p.outlineWithin gates (p.chainFrom (b.slots.get? branch.key)) := by
  rw [branchOutline]
  cases b.slots.get? branch.key with
  | none => rw [chainFrom, outlineWithin]
  | some head => rfl

section ranked

variable {rank : Handle → Nat} (ranked : p.Ranked rank)

include ranked

theorem rank_lt_of_next? {h n : Handle} (next : p.next? h = some n) : rank n < rank h := by
  obtain ⟨b, there, next_eq⟩ := Option.bind_eq_some_iff.1 next
  refine ranked h b there n (List.mem_append_left _ ?_)
  rw [next_eq]
  exact List.mem_singleton.2 rfl

/-- A walk does not come back to blocks of higher ranks, so those it has passed make no
difference. -/
theorem chainAfter_of_ranked (h : Handle) (seen : List Handle)
    (above : ∀ s ∈ seen, rank h < rank s) :
    p.chainAfter seen h = h :: p.chainFrom (p.next? h) := by
  induction bound : rank h using Nat.strongRecOn generalizing h seen with
  | ind r ih =>
    subst bound
    have new : h ∉ seen := fun mem => Nat.lt_irrefl _ (above h mem)
    rw [chainAfter_of_notMem new]
    cases next : p.next? h with
    | none => rfl
    | some n =>
      have falls := rank_lt_of_next? ranked next
      have above' : ∀ s ∈ h :: seen, rank n < rank s := by
        intro s mem
        rcases List.mem_cons.1 mem with rfl | mem
        · exact falls
        · exact Nat.lt_trans falls (above s mem)
      rw [chainOn, chainFrom, chain, ih (rank n) falls n (h :: seen) above' rfl,
        ih (rank n) falls n [] (List.forall_mem_nil _) rfl]

/-- Without cycles a chain is its head before the chain of the next block. -/
theorem chain_of_ranked (h : Handle) : p.chain h = h :: p.chainFrom (p.next? h) :=
  chainAfter_of_ranked ranked h [] fun _ mem => nomatch mem

/-- In a closed program the walk from a block lists its visit list, if no gate around it is one of
lower rank. -/
theorem visits_outlineWithin (closed : p.Closed) (h : Handle) (gates : List Handle)
    (there : ∃ b, p.block? h = some b) (above : ∀ g ∈ gates, rank h < rank g) :
    p.Visits (some h) (Outline.handlesOf (p.outlineWithin gates (p.chain h))) ∧
      Outline.AllWhole (p.outlineWithin gates (p.chain h)) := by
  induction bound : rank h using Nat.strongRecOn generalizing h gates with
  | ind r ih =>
    subst bound
    obtain ⟨b, there⟩ := there
    -- What holds of every block that this one leads to, also where it leads nowhere.
    have onward : ∀ (inner : List Handle) (start : Option Handle),
        (∀ t ∈ start, t ∈ b.links) → (∀ g ∈ inner, rank h ≤ rank g) →
          p.Visits start (Outline.handlesOf (p.outlineWithin inner (p.chainFrom start))) ∧
            Outline.AllWhole (p.outlineWithin inner (p.chainFrom start)) := by
      intro inner start links above'
      cases start with
      | none =>
        rw [chainFrom, outlineWithin]
        exact ⟨.stop, trivial⟩
      | some t =>
        have falls := ranked h b there t (links t rfl)
        refine ih (rank t) falls t inner (closed.links h b there t (links t rfl)) ?_ rfl
        exact fun g mem => Nat.lt_of_lt_of_le falls (above' g mem)
    have next := onward gates b.next
      (fun t mem => List.mem_append_left _ (Option.mem_toList.2 mem))
      fun g mem => Nat.le_of_lt (above g mem)
    rw [chain_of_ranked ranked, next?_of_block? there]
    cases isGate : GateKind.ofTag? b.tag with
    | none =>
      rw [outlineWithin_cons_plain there isGate]
      exact ⟨.plain there isGate next.1, trivial, next.2⟩
    | some type =>
      have new : h ∉ gates := fun mem => Nat.lt_irrefl _ (above h mem)
      have branch : ∀ branch : Branch,
          p.Visits (b.slots.get? branch.key)
              (Outline.handlesOf (p.branchOutline (h :: gates) b branch)) ∧
            Outline.AllWhole (p.branchOutline (h :: gates) b branch) := by
        intro branch
        rw [branchOutline_eq]
        refine onward (h :: gates) (b.slots.get? branch.key) ?_ ?_
        · intro t found
          exact List.mem_append_right _
            (List.mem_map.2 ⟨(branch.key, t), Dict.get?_eq_some_iff.1 found, rfl⟩)
        · intro g mem
          rcases List.mem_cons.1 mem with rfl | mem
          · exact Nat.le_refl _
          · exact Nat.le_of_lt (above g mem)
      rw [outlineWithin_cons_gate there isGate new]
      exact ⟨.gate there isGate (branch .onPass).1 (branch .onFail).1 next.1,
        ⟨(branch .onPass).2, (branch .onFail).2⟩, next.2⟩

end ranked

/-! ## Sound programs -/

/-- The outline of a sound program lists its visit list. -/
theorem visitList_outline (sound : p.Sound) : p.VisitList (Outline.handlesOf p.outline) := by
  obtain ⟨closed, rank, ranked⟩ := sound
  refine ⟨p.chains.map fun head => Outline.handlesOf (p.outlineOf head), ?_, ?_⟩
  · refine List.forall₂_map_right_iff.2 (List.forall₂_same.2 ?_)
    intro head mem
    exact (visits_outlineWithin ranked closed head [] (closed.chains head mem)
      fun _ mem => nomatch mem).1
  · rw [outline]
    induction p.chains with
    | nil => rfl
    | cons head rest ih =>
      rw [List.flatMap_cons, Outline.handlesOf_append, ih, List.map_cons, List.flatten_cons]

/-- Nothing in the outline of a sound program is missing or a loop. -/
theorem allWhole_outline (sound : p.Sound) : Outline.AllWhole p.outline := by
  obtain ⟨closed, rank, ranked⟩ := sound
  have each : ∀ head ∈ p.chains, Outline.AllWhole (p.outlineOf head) := by
    intro head mem
    exact (visits_outlineWithin ranked closed head [] (closed.chains head mem)
      fun _ mem => nomatch mem).2
  rw [outline]
  generalize p.chains = heads at each
  induction heads with
  | nil => trivial
  | cons head rest ih =>
    rw [List.flatMap_cons]
    exact Outline.allWhole_append (each head List.mem_cons_self)
      (ih fun h mem => each h (List.mem_cons_of_mem _ mem))

end Program

end EffectFlow
