import EffectFlow.Program.Chain
import Mathlib.Data.List.Chain
import Mathlib.Data.List.Nodup

/-!
# Chains as maximal paths

One block *follows* another if the link to the next block leads there (`Program.Follows`).  A
*maximal path* from a block goes along these links and takes no block twice, and it ends where
there is no link or where the link leads back into the path (`Program.MaximalPath`).  From every
block there is exactly one, whatever the links of the program are, and it is the chain of the block
(`Program.maximalPath_iff`).  A chain has the blocks that its head reaches
(`Program.mem_chain_iff`).

A *cursor* goes along a chain block by block: it knows the block that comes next and the blocks
that it has passed (`Cursor`).  Whenever it is asked it gives one block of the chain, and after the
last one it gives nothing (`Cursor.fst_take_after`).

Blocks that are linked in sequence are the chain of the first one, if they are different and the
last one leads nowhere (`Program.chain_link`).
-/

namespace EffectFlow

open Relation (ReflTransGen)

namespace Program

variable {p : Program}

/-! ## The rest of a chain -/

/-- The rest of a chain from a block on, if there is one. -/
def chainOn (p : Program) (seen : List Handle) : Option Handle → List Handle
  | none => []
  | some h => p.chainAfter seen h

theorem chainAfter_of_mem {seen : List Handle} {h : Handle} (old : h ∈ seen) :
    p.chainAfter seen h = [] := by
  rw [chainAfter, dif_pos old]

theorem chainAfter_of_notMem {seen : List Handle} {h : Handle} (new : h ∉ seen) :
    p.chainAfter seen h = h :: p.chainOn (h :: seen) (p.next? h) := by
  rw [chainAfter, dif_neg new]
  split
  · next last => rw [last, chainOn]
  · next n next =>
    have rest : p.chainAfter (h :: seen) n = p.chainOn (h :: seen) (p.next? h) := by
      rw [next, chainOn]
    exact congrArg (h :: ·) rest

/-- A chain starts with its head, and goes on with what the head links to. -/
theorem chain_eq_cons (h : Handle) : p.chain h = h :: p.chainOn [h] (p.next? h) :=
  chainAfter_of_notMem List.not_mem_nil

theorem mem_chain_self (h : Handle) : h ∈ p.chain h := by
  rw [chain_eq_cons]
  exact List.mem_cons_self

/-- The rest of a chain goes on from each of its blocks, unless the next one was passed before. -/
theorem mem_chainAfter_of_next? {seen : List Handle} {start h n : Handle}
    (mem : h ∈ p.chainAfter seen start) (link : p.next? h = some n) :
    n ∈ p.chainAfter seen start ∨ n ∈ seen := by
  fun_induction Program.chainAfter p seen start with
  | case1 => cases mem
  | case2 seen start new last =>
    rw [List.mem_singleton.1 mem, last] at link
    cases link
  | case3 seen start new m next less ih =>
    rcases List.mem_cons.1 mem with rfl | later
    · cases next.symm.trans link
      by_cases old : n ∈ h :: seen
      · rcases List.mem_cons.1 old with rfl | old
        · exact .inl List.mem_cons_self
        · exact .inr old
      · rw [chainAfter_of_notMem old]
        exact .inl (List.mem_cons_of_mem _ List.mem_cons_self)
    · rcases ih later with found | old
      · exact .inl (List.mem_cons_of_mem _ found)
      · rcases List.mem_cons.1 old with rfl | old
        · exact .inl List.mem_cons_self
        · exact .inr old

theorem notMem_of_mem_chainAfter {seen : List Handle} {start h : Handle}
    (mem : h ∈ p.chainAfter seen start) : h ∉ seen := by
  fun_induction Program.chainAfter p seen start with
  | case1 => cases mem
  | case2 seen start new last =>
    rw [List.mem_singleton.1 mem]
    exact new
  | case3 seen start new n next less ih =>
    rcases List.mem_cons.1 mem with rfl | later
    · exact new
    · exact fun old => ih later (List.mem_cons_of_mem _ old)

/-- No block is twice in a chain. -/
theorem nodup_chainAfter (seen : List Handle) (start : Handle) :
    (p.chainAfter seen start).Nodup := by
  fun_induction Program.chainAfter p seen start with
  | case1 => exact List.nodup_nil
  | case2 => exact List.nodup_singleton _
  | case3 seen start new n next less ih =>
    have once : start ∉ p.chainAfter (start :: seen) n :=
      fun mem => notMem_of_mem_chainAfter mem List.mem_cons_self
    exact List.nodup_cons.2 ⟨once, ih⟩

/-- Every block of a chain takes one of those that are left, apart from a last one that is
missing. -/
theorem length_chainAfter_le (seen : List Handle) (start : Handle) :
    (p.chainAfter seen start).length ≤ p.fresh seen + 1 := by
  fun_induction Program.chainAfter p seen start with
  | case1 => exact Nat.zero_le _
  | case2 => exact Nat.le_add_left 1 _
  | case3 seen start new n next less ih =>
    rw [List.length_cons]
    exact Nat.succ_le_succ (Nat.le_trans ih less)

theorem length_chain_le (h : Handle) : (p.chain h).length ≤ p.blocks.length + 1 := by
  have all : p.fresh [] = p.blocks.length := by simp [fresh]
  rw [← all]
  exact length_chainAfter_le [] h

/-! ## Maximal paths -/

/-- The link of the first block to the next block leads to the second. -/
def Follows (p : Program) (h n : Handle) : Prop := p.next? h = some n

instance : DecidableRel p.Follows := fun _ _ => inferInstanceAs (Decidable (_ = _))

/-- A path along the links to the next blocks that takes no block twice and cannot go on: at its end
there is no link, or the link leads back into the path. -/
structure MaximalPath (p : Program) (start : Handle) (path : List Handle) : Prop where
  head : path.head? = some start
  nodup : path.Nodup
  linked : path.IsChain p.Follows
  ends : ∀ last ∈ path.getLast?, p.next? last = none ∨ ∃ n ∈ path, p.next? last = some n

instance (start : Handle) (path : List Handle) : Decidable (p.MaximalPath start path) :=
  decidable_of_iff (path.head? = some start ∧ path.Nodup ∧ path.IsChain p.Follows ∧
      ∀ last ∈ path.getLast?, p.next? last = none ∨ ∃ n ∈ path, p.next? last = some n)
    ⟨fun ⟨head, nodup, linked, ends⟩ => ⟨head, nodup, linked, ends⟩,
      fun ⟨head, nodup, linked, ends⟩ => ⟨head, nodup, linked, ends⟩⟩

theorem eq_of_mem_head?_chainAfter {seen : List Handle} {start h : Handle}
    (first : h ∈ (p.chainAfter seen start).head?) : h = start := by
  by_cases old : start ∈ seen
  · rw [chainAfter_of_mem old] at first
    cases first
  · rw [chainAfter_of_notMem old] at first
    cases first
    rfl

/-- Each block of a chain links to the next. -/
theorem isChain_chainAfter (seen : List Handle) (start : Handle) :
    (p.chainAfter seen start).IsChain p.Follows := by
  fun_induction Program.chainAfter p seen start with
  | case1 => exact .nil
  | case2 => exact .singleton _
  | case3 seen start new n next less ih =>
    refine ih.cons fun m first => ?_
    rw [eq_of_mem_head?_chainAfter first]
    exact next

/-- A chain is a maximal path from its head. -/
theorem maximalPath_chain (start : Handle) : p.MaximalPath start (p.chain start) where
  head := by rw [chain_eq_cons, List.head?_cons]
  nodup := nodup_chainAfter [] start
  linked := isChain_chainAfter [] start
  ends := by
    intro last isLast
    cases link : p.next? last with
    | none => exact .inl rfl
    | some n =>
      rcases mem_chainAfter_of_next? (List.mem_of_getLast? isLast) link with back | old
      · exact .inr ⟨n, back, rfl⟩
      · cases old

/-- A path that avoids the blocks that were passed, and that ends where a walk ends, is the rest of
the chain. -/
theorem chainAfter_eq_of_path {seen rest : List Handle} {start : Handle}
    (avoids : ∀ h ∈ start :: rest, h ∉ seen) (nodup : (start :: rest).Nodup)
    (linked : (start :: rest).IsChain p.Follows)
    (ends : ∀ last ∈ (start :: rest).getLast?, ∀ n, p.next? last = some n →
      n ∈ start :: rest ∨ n ∈ seen) :
    p.chainAfter seen start = start :: rest := by
  induction rest generalizing start seen with
  | nil =>
    rw [chainAfter_of_notMem (avoids start List.mem_cons_self)]
    cases link : p.next? start with
    | none => rw [chainOn]
    | some n =>
      have back : n ∈ start :: seen := by
        rcases ends start rfl n link with here | old
        · rw [List.mem_singleton.1 here]
          exact List.mem_cons_self
        · exact List.mem_cons_of_mem start old
      rw [chainOn, chainAfter_of_mem back]
  | cons second rest ih =>
    obtain ⟨link, linked⟩ := List.isChain_cons_cons.1 linked
    obtain ⟨once, nodup⟩ := List.nodup_cons.1 nodup
    have avoids' : ∀ h ∈ second :: rest, h ∉ start :: seen := by
      intro h mem passed
      rcases List.mem_cons.1 passed with rfl | old
      · exact once mem
      · exact avoids h (List.mem_cons_of_mem start mem) old
    -- A link back to the first block leads to one that is passed by now.
    have ends' : ∀ last ∈ (second :: rest).getLast?, ∀ n, p.next? last = some n →
        n ∈ second :: rest ∨ n ∈ start :: seen := by
      intro last isLast n back
      rcases ends last isLast n back with on | old
      · rcases List.mem_cons.1 on with rfl | on
        · exact .inr List.mem_cons_self
        · exact .inl on
      · exact .inr (List.mem_cons_of_mem start old)
    have next : p.next? start = some second := link
    rw [chainAfter_of_notMem (avoids start List.mem_cons_self), next, chainOn,
      ih avoids' nodup linked ends']

theorem MaximalPath.eq_chain {start : Handle} {path : List Handle}
    (maximal : p.MaximalPath start path) : path = p.chain start := by
  obtain ⟨head, nodup, linked, ends⟩ := maximal
  obtain ⟨rest, rfl⟩ := List.head?_eq_some_iff.1 head
  refine (chainAfter_eq_of_path (fun _ _ => List.not_mem_nil) nodup linked ?_).symm
  intro last isLast n link
  rcases ends last isLast with none | ⟨m, back, link'⟩
  · rw [none] at link
    cases link
  · cases link.symm.trans link'
    exact .inl back

/-- The chain of a block is the only maximal path from it. -/
theorem maximalPath_iff {start : Handle} {path : List Handle} :
    p.MaximalPath start path ↔ path = p.chain start := by
  constructor
  · exact MaximalPath.eq_chain
  · rintro rfl
    exact maximalPath_chain start

/-- A chain has the blocks that its head reaches. -/
theorem mem_chain_iff {start h : Handle} :
    h ∈ p.chain start ↔ ReflTransGen p.Follows start h := by
  constructor
  · have linked := isChain_chainAfter (p := p) [] start
    rw [← chain, chain_eq_cons] at linked
    rw [chain_eq_cons]
    intro mem
    rcases List.mem_cons.1 mem with rfl | mem
    · exact .refl
    · exact linked.cons_induction _ _ (fun _ _ link way => way.tail link) .refl h mem
  · intro way
    induction way with
    | refl => exact mem_chain_self start
    | tail _ link on =>
      rcases mem_chainAfter_of_next? on link with found | old
      · exact found
      · cases old

/-! ## Cursors -/

/-- A place on the way along a chain. -/
structure Cursor where
  /-- The block that comes next, if there is one. -/
  ahead : Option Handle
  /-- The blocks that were passed. -/
  passed : List Handle

namespace Cursor

/-- The cursor in front of a chain. -/
def start (head : Handle) : Cursor := ⟨some head, []⟩

/-- Asks for the next block and goes past it.  The way is at its end where a block was passed
before. -/
def take (p : Program) (c : Cursor) : Option Handle × Cursor :=
  match c.ahead with
  | none => (none, c)
  | some h =>
    if h ∈ c.passed then (none, { c with ahead := none })
    else (some h, ⟨p.next? h, h :: c.passed⟩)

/-- The cursor after it was asked a number of times. -/
def after (p : Program) (c : Cursor) : Nat → Cursor
  | 0 => c
  | k + 1 => ((c.after p k).take p).2

/-- The blocks that are still to come. -/
def rest (p : Program) (c : Cursor) : List Handle := p.chainOn c.passed c.ahead

/-- A cursor gives the first of the blocks that are to come, and the others are left. -/
theorem take_spec (c : Cursor) :
    (c.take p).1 = (c.rest p).head? ∧ (c.take p).2.rest p = (c.rest p).tail := by
  obtain ⟨ahead, passed⟩ := c
  cases ahead with
  | none => exact ⟨rfl, rfl⟩
  | some h =>
    by_cases old : h ∈ passed
    · simp only [take, rest, chainOn, if_pos old, chainAfter_of_mem old]
      exact ⟨rfl, rfl⟩
    · simp only [take, rest, chainOn, if_neg old, chainAfter_of_notMem old]
      exact ⟨rfl, rfl⟩

theorem rest_after (c : Cursor) (k : Nat) : (c.after p k).rest p = (c.rest p).drop k := by
  induction k with
  | zero => rfl
  | succ k ih => rw [after, (take_spec _).2, ih, List.tail_drop]

/-- The blocks that a cursor gives are those of the chain in turn, and then there is nothing. -/
theorem fst_take_after (head : Handle) (k : Nat) :
    (((start head).after p k).take p).1 = (p.chain head)[k]? := by
  rw [(take_spec _).1, rest_after, List.head?_drop]
  rfl

end Cursor

/-! ## Linked blocks -/

theorem length_connect (a b : Handle) : (p.connect a b).blocks.length = p.blocks.length :=
  List.length_modify _ _ _

theorem next?_connect_self {a : Handle} (inside : a < p.blocks.length) (b : Handle) :
    (p.connect a b).next? a = some b := by
  have there : (p.connect a b).block? a = some { p.blocks[a] with next := some b } := by
    rw [block?, connect, modifyBlock, List.getElem?_modify, List.getElem?_eq_getElem inside]
    simp
  exact next?_of_block? there

theorem next?_connect_of_ne {a h : Handle} (ne : a ≠ h) (b : Handle) :
    (p.connect a b).next? h = p.next? h := by
  have same : (p.connect a b).block? h = p.block? h := by
    rw [block?, connect, modifyBlock, List.getElem?_modify]
    simp [ne, block?]
  rw [next?, same, next?]

/-- Linking blocks in sequence changes the links of all of them but the last. -/
theorem next?_link_of_notMem {blocks : List Handle} {h : Handle} (apart : h ∉ blocks.dropLast) :
    (p.link blocks).next? h = p.next? h := by
  fun_induction Program.link p blocks with
  | case1 p a b rest ih =>
    rw [List.dropLast_cons_cons, List.mem_cons, not_or] at apart
    rw [ih apart.2, next?_connect_of_ne (Ne.symm apart.1)]
  | case2 => rfl

/-- Different blocks that are linked in sequence follow each other. -/
theorem isChain_link {blocks : List Handle} (nodup : blocks.Nodup)
    (inside : ∀ h ∈ blocks, h < p.blocks.length) : blocks.IsChain (p.link blocks).Follows := by
  fun_induction Program.link p blocks with
  | case1 p a b rest ih =>
    obtain ⟨once, nodup⟩ := List.nodup_cons.1 nodup
    have inside' : ∀ h ∈ b :: rest, h < (p.connect a b).blocks.length := by
      intro h mem
      rw [length_connect]
      exact inside h (List.mem_cons_of_mem a mem)
    -- The links that are set later are those of other blocks.
    have kept : ((p.connect a b).link (b :: rest)).next? a = (p.connect a b).next? a :=
      next?_link_of_notMem fun mem => once (List.dropLast_subset _ mem)
    refine List.isChain_cons_cons.2 ⟨?_, ih nodup inside'⟩
    rw [Follows, kept, next?_connect_self (inside a List.mem_cons_self)]
  | case2 blocks p short =>
    match blocks, short with
    | [], _ => exact .nil
    | [h], _ => exact .singleton h
    | a :: b :: rest, short => exact (short a b rest rfl).elim

/-- Blocks that are linked in sequence are the chain of the first one, if they are different and the
last one leads nowhere. -/
theorem chain_link {blocks : List Handle} {start : Handle} (head : blocks.head? = some start)
    (nodup : blocks.Nodup) (inside : ∀ h ∈ blocks, h < p.blocks.length)
    (ends : ∀ last ∈ blocks.getLast?, p.next? last = none) :
    (p.link blocks).chain start = blocks := by
  have maximal : (p.link blocks).MaximalPath start blocks := by
    refine ⟨head, nodup, isChain_link nodup inside, ?_⟩
    intro last isLast
    have whole := List.dropLast_append_getLast? last isLast
    have apart : last ∉ blocks.dropLast := by
      rw [← whole, ← List.concat_eq_append, List.nodup_concat] at nodup
      exact nodup.1
    rw [next?_link_of_notMem apart]
    exact .inl (ends last isLast)
  exact maximal.eq_chain.symm

/-! ## Chains -/

/-- A walk gives the blocks of the chain one by one and then nothing more, and there are no more of
them than one besides the blocks of the program.  The chain is the only maximal path from its head,
and it has all blocks that the head reaches.  If different blocks are linked of which the last leads
nowhere, then they are the chain of the first. -/
theorem chain_exact (p : Program) (start : Handle) :
    (∀ k, (((Cursor.start start).after p k).take p).1 = (p.chain start)[k]?) ∧
      (p.chain start).length ≤ p.blocks.length + 1 ∧
      (∀ path, p.MaximalPath start path ↔ path = p.chain start) ∧
      (∀ h, h ∈ p.chain start ↔ ReflTransGen p.Follows start h) ∧
      ∀ blocks : List Handle, blocks.head? = some start → blocks.Nodup →
        (∀ h ∈ blocks, h < p.blocks.length) → (∀ last ∈ blocks.getLast?, p.next? last = none) →
        (p.link blocks).chain start = blocks :=
  ⟨Cursor.fst_take_after start, length_chain_le start, fun _ => maximalPath_iff,
    fun _ => mem_chain_iff, fun _ head nodup inside ends => chain_link head nodup inside ends⟩

/-- Blocks of which one leads to a missing block, one to itself and one nowhere. -/
def scattered : Program where
  blocks := [
    { tag := "effect_heal", next := some 9 },
    { tag := "effect_damage", next := some 1 },
    { tag := "gate_chance" }]
  chains := [0]

theorem chain_exact_scattered :
    ([1, 0, 2].Nodup ∧ (∀ h ∈ [1, 0, 2], h < scattered.blocks.length) ∧
        scattered.next? 2 = none ∧ (scattered.link [1, 0, 2]).chain 1 = [1, 0, 2]) ∧
      (scattered.MaximalPath 0 [0, 9] ∧ [0, 9] = scattered.chain 0) ∧
      scattered.MaximalPath 1 [1] ∧ [1] = scattered.chain 1 :=
  ⟨⟨by decide, by decide, rfl,
      (chain_exact scattered 1).2.2.2.2 [1, 0, 2] rfl (by decide) (by decide) (by decide)⟩,
    ⟨by decide, ((chain_exact scattered 0).2.2.1 [0, 9]).1 (by decide)⟩,
    by decide, ((chain_exact scattered 1).2.2.1 [1]).1 (by decide)⟩

end Program

end EffectFlow
