import EffectFlow.Proofs.Program.Visits
import Mathlib.Data.List.Perm.Subperm

/-!
# Walks through any program

`Program.Walks` says what a walk comes upon, step by step, given the gates whose branches it is in
and the blocks that it has passed on its chain.  Nothing in it counts down, so that a walk ends is a
fact to be proved: from every block and inside any gates there is exactly one result, and it is
the outline (`Program.walks_iff`).

`Program.Reaches` says which blocks a walk reaches, and inside which gates.  The gates around a
block are different blocks (`Program.Reaches.nodup`), so they are no more than the gates of the
program (`Program.Reaches.length_le`).  Every part of the outline stands where the walk reaches it
(`Program.allReached_outline`), and every block that is reached stands on a chain that the walk
enters (`Program.Reaches.exists_enters`).
-/

namespace EffectFlow

namespace Program

/-! ## Walks -/

/-- What a walk comes upon from a block on, if there is one.  The gates are those whose branches the
walk is in, the innermost first, and the blocks are those that it has passed on its chain. -/
inductive Walks (p : Program) : List Handle → List Handle → Option Handle → List Outline → Prop
  | stop {gates seen : List Handle} : p.Walks gates seen none []
  | again {gates seen : List Handle} {h : Handle} (old : h ∈ seen) : p.Walks gates seen (some h) []
  | missing {gates seen : List Handle} {h : Handle} {rest : List Outline} (new : h ∉ seen)
      (nothing : p.block? h = none) (next : p.Walks gates (h :: seen) (p.next? h) rest) :
      p.Walks gates seen (some h) (.missing h :: rest)
  | plain {gates seen : List Handle} {h : Handle} {b : Block} {rest : List Outline}
      (new : h ∉ seen) (there : p.block? h = some b) (noGate : GateKind.ofTag? b.tag = none)
      (next : p.Walks gates (h :: seen) (p.next? h) rest) :
      p.Walks gates seen (some h) (.plain h b.tag :: rest)
  | loop {gates seen : List Handle} {h : Handle} {b : Block} {type : GateKind}
      {rest : List Outline} (new : h ∉ seen) (there : p.block? h = some b)
      (isGate : GateKind.ofTag? b.tag = some type) (inside : h ∈ gates)
      (next : p.Walks gates (h :: seen) (p.next? h) rest) :
      p.Walks gates seen (some h) (.loop h b.tag :: rest)
  | gate {gates seen : List Handle} {h : Handle} {b : Block} {type : GateKind}
      {pass fail rest : List Outline} (new : h ∉ seen) (there : p.block? h = some b)
      (isGate : GateKind.ofTag? b.tag = some type) (outside : h ∉ gates)
      (onPass : p.Walks (h :: gates) [] (b.slots.get? Branch.onPass.key) pass)
      (onFail : p.Walks (h :: gates) [] (b.slots.get? Branch.onFail.key) fail)
      (next : p.Walks gates (h :: seen) (p.next? h) rest) :
      p.Walks gates seen (some h) (.gate h b.tag type pass fail :: rest)

variable {p : Program}

theorem chainFrom_eq_chainOn (start : Option Handle) : p.chainFrom start = p.chainOn [] start := by
  cases start <;> rfl

theorem outlineWithin_nil (gates : List Handle) : p.outlineWithin gates [] = [] := by
  rw [outlineWithin]

theorem outlineWithin_cons_missing {gates rest : List Handle} {h : Handle}
    (nothing : p.block? h = none) :
    p.outlineWithin gates (h :: rest) = .missing h :: p.outlineWithin gates rest := by
  rw [outlineWithin]
  congr 1
  split
  · rfl
  · next found =>
    rw [nothing] at found
    cases found

theorem outlineWithin_cons_loop {gates rest : List Handle} {h : Handle} {b : Block}
    {type : GateKind} (there : p.block? h = some b) (isGate : GateKind.ofTag? b.tag = some type)
    (inside : h ∈ gates) :
    p.outlineWithin gates (h :: rest) = .loop h b.tag :: p.outlineWithin gates rest := by
  rw [outlineWithin]
  congr 1
  split
  · next missing =>
    rw [there] at missing
    cases missing
  · next found =>
    cases there.symm.trans found
    simp only [isGate, dif_pos inside]

theorem outlineWithin_cons (gates : List Handle) (h : Handle) (rest : List Handle) :
    p.outlineWithin gates (h :: rest) =
      p.outlineWithin gates [h] ++ p.outlineWithin gates rest := by
  rw [outlineWithin, outlineWithin, outlineWithin_nil]
  rfl

theorem mem_outlineWithin_of_mem {gates blocks : List Handle} {h : Handle} {o : Outline}
    (mem : h ∈ blocks) (found : o ∈ p.outlineWithin gates [h]) :
    o ∈ p.outlineWithin gates blocks := by
  induction blocks with
  | nil => cases mem
  | cons first rest ih =>
    rw [outlineWithin_cons, List.mem_append]
    rcases List.mem_cons.1 mem with rfl | mem
    · exact .inl found
    · exact .inr (ih mem)

/-- A walk comes upon nothing but the outline. -/
theorem Walks.eq_outlineWithin {gates seen : List Handle} {start : Option Handle}
    {os : List Outline} (walk : p.Walks gates seen start os) :
    os = p.outlineWithin gates (p.chainOn seen start) := by
  induction walk with
  | stop => rw [chainOn, outlineWithin_nil]
  | again old => rw [chainOn, chainAfter_of_mem old, outlineWithin_nil]
  | missing new nothing _ ih =>
    rw [chainOn, chainAfter_of_notMem new, outlineWithin_cons_missing nothing, ← ih]
  | plain new there noGate _ ih =>
    rw [chainOn, chainAfter_of_notMem new, outlineWithin_cons_plain there noGate, ← ih]
  | loop new there isGate inside _ ih =>
    rw [chainOn, chainAfter_of_notMem new, outlineWithin_cons_loop there isGate inside, ← ih]
  | gate new there isGate outside _ _ _ ihPass ihFail ih =>
    rw [chainOn, chainAfter_of_notMem new, outlineWithin_cons_gate there isGate outside, ← ih,
      branchOutline_eq, branchOutline_eq, chainFrom_eq_chainOn, chainFrom_eq_chainOn, ← ihPass,
      ← ihFail]

/-- A step of a walk, given the walks through the branches of a gate that is entered. -/
theorem walks_cons {gates seen : List Handle} {h : Handle} (new : h ∉ seen)
    (branches : ∀ b, p.block? h = some b → h ∉ gates → ∀ branch : Branch,
      p.Walks (h :: gates) [] (b.slots.get? branch.key) (p.branchOutline (h :: gates) b branch))
    (next : p.Walks gates (h :: seen) (p.next? h)
      (p.outlineWithin gates (p.chainOn (h :: seen) (p.next? h)))) :
    p.Walks gates seen (some h) (p.outlineWithin gates (p.chainAfter seen h)) := by
  rw [chainAfter_of_notMem new]
  cases there : p.block? h with
  | none =>
    rw [outlineWithin_cons_missing there]
    exact .missing new there next
  | some b =>
    cases isGate : GateKind.ofTag? b.tag with
    | none =>
      rw [outlineWithin_cons_plain there isGate]
      exact .plain new there isGate next
    | some type =>
      by_cases inside : h ∈ gates
      · rw [outlineWithin_cons_loop there isGate inside]
        exact .loop new there isGate inside next
      · rw [outlineWithin_cons_gate there isGate inside]
        exact .gate new there isGate inside (branches b there inside .onPass)
          (branches b there inside .onFail) next

/-- Every walk comes to its end. -/
theorem walks_outlineWithin (gates seen : List Handle) (start : Option Handle) :
    p.Walks gates seen start (p.outlineWithin gates (p.chainOn seen start)) := by
  induction outer : p.fresh gates using Nat.strongRecOn generalizing gates seen start with
  | ind left ihGates =>
    subst outer
    -- Inside the same gates the chain passes blocks; a gate that is entered leaves fewer gates.
    have along : ∀ (h : Handle) (seen : List Handle),
        p.Walks gates seen (some h) (p.outlineWithin gates (p.chainAfter seen h)) := by
      intro h seen
      have branches : ∀ h b, p.block? h = some b → h ∉ gates → ∀ branch : Branch,
          p.Walks (h :: gates) [] (b.slots.get? branch.key)
            (p.branchOutline (h :: gates) b branch) := by
        intro h b there outside branch
        rw [branchOutline_eq, chainFrom_eq_chainOn]
        exact ihGates _ (fresh_cons_lt (lt_of_block? there) outside) _ _ _ rfl
      fun_induction Program.chainAfter p seen h with
      | case1 seen h old =>
        rw [outlineWithin_nil]
        exact .again old
      | case2 seen h new last =>
        have step := walks_cons new (branches h) (by
          rw [last, chainOn, outlineWithin_nil]
          exact .stop)
        rwa [chainAfter_of_notMem new, last] at step
      | case3 seen h new n next less ih =>
        have step := walks_cons new (branches h) (by
          rw [next, chainOn]
          exact ih)
        rwa [chainAfter_of_notMem new, next] at step
    cases start with
    | none =>
      rw [chainOn, outlineWithin_nil]
      exact .stop
    | some h => exact along h seen

/-- A walk has exactly one result, whatever the links of the program are. -/
theorem walks_iff {gates seen : List Handle} {start : Option Handle} {os : List Outline} :
    p.Walks gates seen start os ↔ os = p.outlineWithin gates (p.chainOn seen start) := by
  constructor
  · exact Walks.eq_outlineWithin
  · rintro rfl
    exact walks_outlineWithin gates seen start

/-! ## Blocks that are reached -/

/-- The walk through the program reaches the block while it is in the branches of the gates, the
innermost first. -/
inductive Reaches (p : Program) : List Handle → Handle → Prop
  | head {h : Handle} (chain : h ∈ p.chains) : p.Reaches [] h
  | next {gates : List Handle} {h n : Handle} (reached : p.Reaches gates h)
      (link : p.next? h = some n) : p.Reaches gates n
  | slot {gates : List Handle} {g h : Handle} {b : Block} {type : GateKind} {branch : Branch}
      (reached : p.Reaches gates g) (there : p.block? g = some b)
      (isGate : GateKind.ofTag? b.tag = some type) (outside : g ∉ gates)
      (link : b.slots.get? branch.key = some h) : p.Reaches (g :: gates) h

/-- The walk enters the chain at the block while it is in the branches of the gates. -/
inductive Enters (p : Program) : List Handle → Handle → Prop
  | head {h : Handle} (chain : h ∈ p.chains) : p.Enters [] h
  | slot {gates : List Handle} {start g h : Handle} {b : Block} {type : GateKind} {branch : Branch}
      (entered : p.Enters gates start) (on : g ∈ p.chain start) (there : p.block? g = some b)
      (isGate : GateKind.ofTag? b.tag = some type) (outside : g ∉ gates)
      (link : b.slots.get? branch.key = some h) : p.Enters (g :: gates) h

/-- A block that is reached stands on a chain that is entered. -/
theorem Reaches.exists_enters {gates : List Handle} {h : Handle} (reached : p.Reaches gates h) :
    ∃ start, p.Enters gates start ∧ h ∈ p.chain start := by
  induction reached with
  | head chain => exact ⟨_, .head chain, mem_chain_self _⟩
  | next _ link ih =>
    obtain ⟨start, entered, on⟩ := ih
    refine ⟨start, entered, ?_⟩
    rcases mem_chainAfter_of_next? on link with found | old
    · exact found
    · cases old
  | slot _ there isGate outside link ih =>
    obtain ⟨start, entered, on⟩ := ih
    exact ⟨_, .slot entered on there isGate outside link, mem_chain_self _⟩

/-- Is the tag one of a gate? -/
def isGateTag (tag : String) : Bool := (GateKind.ofTag? tag).isSome

/-- Is there a gate at the handle? -/
def isGateAt (p : Program) (h : Handle) : Bool := (p.tag? h).any isGateTag

/-- The number of gates among the blocks. -/
def gateCount (p : Program) : Nat := p.blocks.countP fun b => isGateTag b.tag

theorem isGateAt_of_block? {h : Handle} {b : Block} (there : p.block? h = some b) :
    p.isGateAt h = isGateTag b.tag := by
  rw [isGateAt, tag?_of_block? there, Option.any_some]

/-- Counting the places of a list at which something holds counts its members. -/
theorem countP_range_getElem? {α : Type} (q : α → Bool) (xs : List α) :
    (List.range xs.length).countP (fun i => xs[i]?.any q) = xs.countP q := by
  induction xs with
  | nil => rfl
  | cons x xs ih =>
    rw [List.length_cons, List.range_succ_eq_map, List.countP_cons, List.countP_map,
      List.countP_cons, ← ih]
    rfl

/-- Different gates are no more than the gates among the blocks. -/
theorem length_le_gateCount {gates : List Handle} (nodup : gates.Nodup)
    (areGates : ∀ g ∈ gates, p.isGateAt g = true) : gates.length ≤ p.gateCount := by
  have among : gates ⊆ (List.range p.blocks.length).filter p.isGateAt := by
    intro g mem
    have isGate := areGates g mem
    cases there : p.block? g with
    | none =>
      rw [isGateAt, tag?, there] at isGate
      cases isGate
    | some b =>
      exact List.mem_filter.2 ⟨List.mem_range.2 (lt_of_block? there), isGate⟩
  have shorter := (nodup.subperm among).length_le
  rw [← List.countP_eq_length_filter] at shorter
  have count : (List.range p.blocks.length).countP p.isGateAt = p.gateCount := by
    rw [gateCount, ← countP_range_getElem? _ p.blocks]
    refine List.countP_congr fun h _ => ?_
    rw [isGateAt, tag?, block?, Option.any_map]
  rwa [count] at shorter

/-- All blocks around a reached one are gates. -/
theorem Reaches.isGateAt_of_mem {gates : List Handle} {h g : Handle} (reached : p.Reaches gates h)
    (mem : g ∈ gates) : p.isGateAt g = true := by
  induction reached with
  | head => cases mem
  | next _ _ ih => exact ih mem
  | slot _ there isGate _ _ ih =>
    rcases List.mem_cons.1 mem with rfl | mem
    · rw [isGateAt_of_block? there, isGateTag, isGate, Option.isSome_some]
    · exact ih mem

/-- No gate is entered inside itself. -/
theorem Reaches.nodup {gates : List Handle} {h : Handle} (reached : p.Reaches gates h) :
    gates.Nodup := by
  induction reached with
  | head => exact List.nodup_nil
  | next _ _ ih => exact ih
  | slot _ _ _ outside _ ih => exact List.nodup_cons.2 ⟨outside, ih⟩

/-- There are no more blocks around a reached one than the program has gates. -/
theorem Reaches.length_le {gates : List Handle} {h : Handle} (reached : p.Reaches gates h) :
    gates.length ≤ p.gateCount :=
  length_le_gateCount reached.nodup fun _ mem => reached.isGateAt_of_mem mem

end Program

/-! ## Where the parts of an outline stand -/

namespace Outline

mutual

/-- The walk reaches the parts of the outline inside the gates that they stand in. -/
def Reached (p : Program) (gates : List Handle) : Outline → Prop
  | missing h => p.Reaches gates h
  | plain h _ => p.Reaches gates h ∧ h ∉ gates
  | gate h _ _ onPass onFail =>
    (p.Reaches gates h ∧ h ∉ gates) ∧
      AllReached p (h :: gates) onPass ∧ AllReached p (h :: gates) onFail
  | loop h _ => p.Reaches gates h ∧ h ∈ gates
termination_by structural outline => outline

/-- The walk reaches the parts of the outlines inside the gates that they stand in. -/
def AllReached (p : Program) (gates : List Handle) : List Outline → Prop
  | [] => True
  | o :: rest => Reached p gates o ∧ AllReached p gates rest
termination_by structural outlines => outlines

end

theorem allReached_append {p : Program} {gates : List Handle} {front back : List Outline}
    (hf : AllReached p gates front) (hb : AllReached p gates back) :
    AllReached p gates (front ++ back) := by
  induction front with
  | nil => exact hb
  | cons o rest ih => exact ⟨hf.1, ih hf.2⟩

end Outline

namespace Program

variable {p : Program}

/-- What a walk comes upon it reaches, if it starts at a block that is reached. -/
theorem Walks.allReached {gates seen : List Handle} {start : Option Handle} {os : List Outline}
    (walk : p.Walks gates seen start os) (reached : ∀ h ∈ start, p.Reaches gates h) :
    Outline.AllReached p gates os := by
  induction walk with
  | stop => trivial
  | again => trivial
  | missing _ _ _ ih =>
    have here := reached _ rfl
    exact ⟨here, ih fun n link => here.next link⟩
  | @plain gates seen h b rest _ there noGate _ ih =>
    have here := reached _ rfl
    refine ⟨⟨here, fun inside => ?_⟩, ih fun n link => here.next link⟩
    have isGate := here.isGateAt_of_mem inside
    rw [isGateAt_of_block? there, isGateTag, noGate] at isGate
    cases isGate
  | loop _ _ _ inside _ ih =>
    have here := reached _ rfl
    exact ⟨⟨here, inside⟩, ih fun n link => here.next link⟩
  | gate _ there isGate outside _ _ _ ihPass ihFail ih =>
    have here := reached _ rfl
    exact ⟨⟨⟨here, outside⟩, ihPass fun n link => here.slot there isGate outside link,
      ihFail fun n link => here.slot there isGate outside link⟩, ih fun n link => here.next link⟩

/-- The walk through a program reaches every part of its outline. -/
theorem allReached_outline (p : Program) : Outline.AllReached p [] p.outline := by
  have each : ∀ head ∈ p.chains, Outline.AllReached p [] (p.outlineOf head) := by
    intro head mem
    refine (walks_outlineWithin [] [] (some head)).allReached fun h start => ?_
    cases start
    exact .head mem
  rw [outline]
  generalize p.chains = heads at each
  induction heads with
  | nil => trivial
  | cons head rest ih =>
    rw [List.flatMap_cons]
    exact Outline.allReached_append (each head List.mem_cons_self)
      (ih fun h mem => each h (List.mem_cons_of_mem _ mem))

end Program

end EffectFlow
