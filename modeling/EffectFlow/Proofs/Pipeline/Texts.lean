import EffectFlow.Proofs.Pipeline.Codec

/-!
# Documents and their texts

The members of a stored node beside its parameters are integers of 64 bits, texts and the parameters
themselves.  So the only numbers of a document that a text could blur are doubles among the
parameters (`Document.numbersReadBack_toTree`).

A document without such doubles is read back from its text exactly if a text may be nested as deeply
as the document is (`Document.ofText_toText_iff`).  Nothing is asked of its texts, its keys, and the
range of its numbers.
-/

namespace EffectFlow

open Json (Value Tree)

namespace StoredNode

/-- The numbers of a node read back if those of its parameters do. -/
theorem numbersReadBack_toTree {w : StoredNode} :
    w.toTree.NumbersReadBack ↔ (Value.object w.params).tree.NumbersReadBack := by
  have word : ∀ n : Int64, (Value.int64 n).tree.NumbersReadBack :=
    fun n => Json.Number.readsBack_integer _ _
  show Tree.NumbersReadBackMembers (w.members.map fun m => (m.1, m.2.tree)) ↔ _
  rw [Tree.numbersReadBackMembers_iff, List.forall_mem_map]
  obtain ⟨effectId, gateName, params, order, trigger, chance⟩ := w
  cases effectId <;> cases gateName <;> cases trigger <;>
    simp [members, word, Value.text, Tree.NumbersReadBack]

end StoredNode

namespace Document

/-- The numbers of a document read back if those of all parameters do. -/
theorem numbersReadBack_toTree {d : Document} :
    d.toTree.NumbersReadBack ↔
      ∀ w ∈ d.nodes, (Value.object w.params).tree.NumbersReadBack := by
  show Tree.NumbersReadBackItems (d.nodes.map (·.toTree)) ↔ _
  rw [Tree.numbersReadBackItems_iff, List.forall_mem_map]
  simp only [StoredNode.numbersReadBack_toTree]

/-- All numbers among the parameters of the document, at any depth, are integers. -/
def OnlyIntegers (d : Document) : Prop :=
  ∀ w ∈ d.nodes, (Value.object w.params).tree.onlyIntegers = true

/-- A document of integers is read back from its text, exactly if it is not nested too deeply. -/
theorem ofText_toText_iff {d : Document} (integers : d.OnlyIntegers) :
    ofText d.toText = .ok d ↔ d.toTree.depth ≤ Json.maxDepth := by
  have back : d.toTree.NumbersReadBack := numbersReadBack_toTree.2 fun w mem =>
    Tree.numbersReadBack_of_onlyIntegers (integers w mem)
  rw [ofText_toText back]
  split
  · next shallow => exact iff_of_true rfl shallow
  · next deep => exact iff_of_false (fun eq => nomatch eq) deep

/-- A node of both kinds, with words of no meaning, characters that a text escapes, and numbers from
the ends of their ranges. -/
def farEnds : Document := ⟨[{
  effectId := some (-0x8000000000000000)
  gateName := some "\"\\ \t\u0001"
  params := Dict.ofList [
    ("", .array [.number (.integer (-0x8000000000000000) (by decide)), .text "\u00e9\u2028"]),
    ("onPass", .object (Dict.ofList
      [("\n", .number (.integer 0xFFFFFFFFFFFFFFFF (by decide)))]))]
  order := 0x7FFFFFFFFFFFFFFF
  trigger := some ""
  chance := -1 }]⟩

theorem ofText_toText_farEnds :
    farEnds.OnlyIntegers ∧ ofText farEnds.toText = .ok farEnds := by
  have integers : farEnds.OnlyIntegers := by
    intro w mem
    rw [List.mem_singleton.1 mem]
    decide
  exact ⟨integers, (ofText_toText_iff integers).2 (by decide)⟩

end Document

end EffectFlow
