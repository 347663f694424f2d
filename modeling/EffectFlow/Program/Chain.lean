import EffectFlow.Program.Basic

/-!
# Walking chains

`Program.chain` lists the blocks of a chain from its head along the links to the next block.  The
walk ends where there is no link, and before a block that it has passed already.  A handle that
points nowhere is listed and ends the walk.

The walk ends because every step takes a block that was not passed before
(`Program.fresh_lt_of_next?`).
-/

namespace EffectFlow

namespace Program

/-- The number of blocks that a walk has not passed. -/
def fresh (p : Program) (seen : List Handle) : Nat :=
  ((List.range p.blocks.length).filter fun h => !seen.contains h).length

theorem lt_of_block? {p : Program} {h : Handle} {b : Block} (hb : p.block? h = some b) :
    h < p.blocks.length := (List.getElem?_eq_some_iff.1 hb).1

theorem length_filter_lt_of_imp {α : Type} {l : List α} {f g : α → Bool} {x : α} (mem : x ∈ l)
    (hg : g x = true) (hf : f x = false) (imp : ∀ y, f y = true → g y = true) :
    (l.filter f).length < (l.filter g).length := by
  induction l with
  | nil => simp at mem
  | cons a rest ih =>
    have le : ∀ l : List α, (l.filter f).length ≤ (l.filter g).length := fun l => by
      simpa [List.countP_eq_length_filter] using List.countP_mono_left (l := l) fun y _ => imp y
    rcases List.mem_cons.1 mem with rfl | mem
    · have := le rest
      simp only [List.filter_cons, hg, hf, if_true, Bool.false_eq_true, if_false, List.length_cons]
      omega
    · have := ih mem
      simp only [List.filter_cons]
      by_cases ha : f a = true
      · simp [ha, imp a ha, this]
      · by_cases hb : g a = true
        · simp only [ha, hb, Bool.false_eq_true, if_false, if_true, List.length_cons]
          omega
        · simpa [ha, hb] using this

/-- Passing a block leaves fewer. -/
theorem fresh_cons_lt {p : Program} {seen : List Handle} {h : Handle} (lt : h < p.blocks.length)
    (new : h ∉ seen) : p.fresh (h :: seen) < p.fresh seen :=
  length_filter_lt_of_imp (List.mem_range.2 lt) (by simpa using new) (by simp) (by simp)

/-- Following a link from a new block leaves fewer. -/
theorem fresh_lt_of_next? {p : Program} {seen : List Handle} {h n : Handle}
    (hn : p.next? h = some n) (new : h ∉ seen) : p.fresh (h :: seen) < p.fresh seen := by
  obtain ⟨b, hb, _⟩ := Option.bind_eq_some_iff.1 hn
  exact fresh_cons_lt (lt_of_block? hb) new

/-- The rest of a walk that has passed some blocks. -/
def chainAfter (p : Program) (seen : List Handle) (h : Handle) : List Handle :=
  if new : h ∈ seen then []
  else
    match hn : p.next? h with
    | none => [h]
    | some n =>
      have : p.fresh (h :: seen) < p.fresh seen := fresh_lt_of_next? hn new
      h :: p.chainAfter (h :: seen) n
termination_by p.fresh seen

/-- The blocks of a chain. -/
def chain (p : Program) (head : Handle) : List Handle := p.chainAfter [] head

/-- The tags along a chain. -/
def tagsFrom (p : Program) (head : Handle) : List String := (p.chain head).filterMap p.tag?

end Program

end EffectFlow
