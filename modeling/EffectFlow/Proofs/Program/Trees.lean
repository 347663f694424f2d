import EffectFlow.Fields.Names
import EffectFlow.Gate
import EffectFlow.Proofs.Program.Checks
import Mathlib.Data.List.Nodup
import Mathlib.Logic.ExistsUnique

/-!
# Programs that are trees

A program is a *tree* if every block is the target of exactly one reference: of a chain, of the link
of the block before it, or of a slot (`Program.IsTree`).  Then one way leads to every block from the
head of a chain.

A program is one as soon as its references are the handles of its blocks, each once, and every link
leads forward (`Program.existsUnique_refers`, `Program.existsUnique_way`).  Links that lead forward
close no loop, so the check of links accepts the program as well (`Program.check_of_forward`).
-/

namespace EffectFlow

/-- The block that a referrer stands in. -/
def Referrer.block? : Referrer → Option Handle
  | chain _ => none
  | next g => some g
  | slot g _ => some g

namespace Program

/-- A way along references leads to the block, from a chain on.  The last reference comes first. -/
inductive Way (p : Program) : List Referrer → Handle → Prop
  | chain {i : Nat} {h : Handle} (refers : p.Refers h (.chain i)) : p.Way [.chain i] h
  | link {g h : Handle} {place : Referrer} {way : List Referrer} (before : p.Way way g)
      (inside : place.block? = some g) (refers : p.Refers h place) : p.Way (place :: way) h

/-- The blocks make one tree, with the head of the only chain as its root. -/
structure IsTree (p : Program) : Prop where
  /-- The check of links accepts the program. -/
  checked : p.check = .ok ()
  /-- There is one chain, or none if there is no block. -/
  chains : p.chains.length = if p.blocks = [] then 0 else 1
  /-- Every block is referred to from one place. -/
  referred : ∀ h, h < p.blocks.length → ∃! place, p.Refers h place
  /-- One way leads to every block. -/
  reached : ∀ h, h < p.blocks.length → ∃! way, p.Way way h
  /-- Only gates have slots, and these have the names of branches. -/
  slots : ∀ h b slot target, p.block? h = some b → b.slots.get? slot = some target →
    (∃ type, GateKind.ofTag? b.tag = some type) ∧ ∃ branch : Branch, branch.key = slot

variable {p : Program}

/-! ## References -/

/-- The references of a block are its links. -/
theorem map_fst_blockReferences (g : Handle) (b : Block) :
    (blockReferences g b).map Prod.fst = b.links := by
  rw [blockReferences, Block.links, Dict.values, List.map_append, List.map_map]
  cases b.next <;> rfl

/-- The references of a program lead to the heads of its chains and where its blocks lead. -/
theorem map_fst_references (p : Program) :
    p.references.map Prod.fst = p.chains ++ p.blocks.flatMap Block.links := by
  have chains : (p.chains.mapIdx fun i h => (h, Referrer.chain i)).map Prod.fst = p.chains :=
    List.ext_getElem (by simp) (by simp)
  have blocks : (p.blocks.mapIdx blockReferences).map (List.map Prod.fst) =
      p.blocks.map Block.links :=
    List.ext_getElem (by simp) (by simp [map_fst_blockReferences])
  rw [references, List.map_append, chains, List.map_flatten, blocks, List.flatMap_def]

section permutation

variable (perm : (p.chains ++ p.blocks.flatMap Block.links).Perm (List.range p.blocks.length))

include perm

/-- In a tree exactly the blocks that are there are referred to. -/
theorem exists_refers_iff {h : Handle} : (∃ place, p.Refers h place) ↔ h < p.blocks.length := by
  rw [← List.mem_range, ← perm.mem_iff, ← map_fst_references, List.mem_map]
  constructor
  · rintro ⟨place, refers⟩
    exact ⟨(h, place), mem_references_iff.2 refers, rfl⟩
  · rintro ⟨⟨_, place⟩, mem, rfl⟩
    exact ⟨place, mem_references_iff.1 mem⟩

/-- If the references are a permutation of the handles, each handle is referred to once. -/
theorem refers_unique {h : Handle} {place other : Referrer} (refers : p.Refers h place)
    (refers' : p.Refers h other) : place = other := by
  have nodup : (p.references.map Prod.fst).Nodup := by
    rw [map_fst_references]
    exact perm.nodup_iff.2 List.nodup_range
  have same := List.inj_on_of_nodup_map nodup (mem_references_iff.2 refers)
    (mem_references_iff.2 refers') rfl
  exact congrArg Prod.snd same

/-- In a tree each block is referred to from one place. -/
theorem existsUnique_refers {h : Handle} (lt : h < p.blocks.length) :
    ∃! place, p.Refers h place := by
  obtain ⟨place, refers⟩ := (exists_refers_iff perm).2 lt
  exact ⟨place, refers, fun other refers' => refers_unique perm refers' refers⟩

/-- Two ways to a block end with the same reference, so they come from the same block. -/
theorem Way.unique {h : Handle} {way other : List Referrer} (leads : p.Way way h)
    (leads' : p.Way other h) : way = other := by
  induction leads generalizing other with
  | chain refers =>
    cases leads' with
    | chain refers' => rw [refers_unique perm refers refers']
    | link _ inside' refers' =>
      rw [← refers_unique perm refers refers'] at inside'
      cases inside'
  | link before inside refers ih =>
    cases leads' with
    | chain refers' =>
      rw [refers_unique perm refers refers'] at inside
      cases inside
    | link before' inside' refers' =>
      cases refers_unique perm refers refers'
      cases inside.symm.trans inside'
      rw [ih before']

end permutation

/-! ## Links that lead forward -/

/-- Every link leads to a block that stands later. -/
def LeadsForward (p : Program) : Prop := ∀ h b, p.block? h = some b → ∀ t ∈ b.links, h < t

/-- A reference from a block is one of its links. -/
theorem mem_links_of_refers {g h : Handle} {place : Referrer} (refers : p.Refers h place)
    (inside : place.block? = some g) : ∃ b, p.block? g = some b ∧ h ∈ b.links := by
  cases refers with
  | chain => cases inside
  | next there next =>
    cases inside
    exact ⟨_, there, List.mem_append_left _ (Option.mem_toList.2 next)⟩
  | slot there found =>
    cases inside
    exact ⟨_, there, List.mem_append_right _ (List.mem_map_of_mem (Dict.get?_eq_some_iff.1 found))⟩

section forward

variable (perm : (p.chains ++ p.blocks.flatMap Block.links).Perm (List.range p.blocks.length))
  (forward : p.LeadsForward)

include perm forward

/-- The way to a block is that to the block which refers to it, and one reference more. -/
theorem existsUnique_way {h : Handle} (lt : h < p.blocks.length) : ∃! way, p.Way way h := by
  -- Links lead forward, so the block that refers to this one has a smaller handle.
  have some_way : ∃ way, p.Way way h := by
    induction h using Nat.strongRecOn with
    | ind h ih =>
      obtain ⟨place, refers⟩ := (exists_refers_iff perm).2 lt
      cases inside : place.block? with
      | none =>
        cases refers with
        | chain there => exact ⟨_, .chain (.chain there)⟩
        | next => cases inside
        | slot => cases inside
      | some g =>
        obtain ⟨b, there, link⟩ := mem_links_of_refers refers inside
        obtain ⟨way, before⟩ := ih g (forward g b there h link) (lt_of_block? there)
        exact ⟨_, .link before inside refers⟩
  obtain ⟨way, leads⟩ := some_way
  exact ⟨way, leads, fun other leads' => leads'.unique perm leads⟩

/-- The check of links accepts a program whose references are the handles of its blocks, if its
links lead forward. -/
theorem check_of_forward : p.check = .ok () := by
  refine check_eq_ok_iff.2 ⟨fun h place refers => (exists_refers_iff perm).1 ⟨place, refers⟩, ?_⟩
  have ranked : p.Ranked fun h => p.blocks.length - h := fun h b there t link =>
    Nat.sub_lt_sub_left (lt_of_block? there) (forward h b there t link)
  exact fun h way => Nat.lt_irrefl _ (rank_lt_of_reaches ranked way)

end forward

end Program

end EffectFlow
