import EffectFlow.Proofs.Pipeline.Lifting
import EffectFlow.Proofs.Validation.Errors

/-!
# Lifting valid documents

The validator and lifting look at the same loose numbers and names.  They differ at one point:
lifting asks for orders and numbers of effects that fit into 32 bits, and the validator does not.
So a valid document is lifted without loss, branches at every depth among it, exactly if its orders
and its numbers of effects fit (`Validator.allLift_iff_allInWords`).
-/

namespace EffectFlow

open Json (Value)

/-! ## Lifting without loss -/

namespace Entry

mutual

/-- The entry is lifted, and so is all that stands in its branches. -/
def Lifts : Entry → Prop
  | unreadable _ => False
  | node w onPass onFail =>
    (∃ n, (node w onPass onFail).lift = .ok n) ∧
      (w.gateName.isSome = true →
        (∀ branch : Branch, ∃ items, w.items? branch.key = .ok items) ∧
          AllLift onPass ∧ AllLift onFail)
termination_by structural entry => entry

/-- The entries are lifted, and so is all that stands in their branches. -/
def AllLift : List Entry → Prop
  | [] => True
  | entry :: rest => Lifts entry ∧ AllLift rest
termination_by structural entries => entries

end

mutual

/-- The orders and the numbers of effects fit into 32 bits, as far as nodes are visited. -/
def InWords : Entry → Prop
  | unreadable _ => True
  | node w onPass onFail =>
    w.order.toInt < words32 ∧ (∀ id, w.effectId = some id → id.toInt < words32) ∧
      (w.gateName.isSome = true → AllInWords onPass ∧ AllInWords onFail)
termination_by structural entry => entry

/-- The orders and the numbers of effects fit into 32 bits, as far as nodes are visited. -/
def AllInWords : List Entry → Prop
  | [] => True
  | entry :: rest => InWords entry ∧ AllInWords rest
termination_by structural entries => entries

end

mutual

/-- Whether the numbers of an entry fit can be decided. -/
def decidableInWords : ∀ entry : Entry, Decidable entry.InWords
  | unreadable _ => isTrue trivial
  | node w onPass onFail =>
    have := decidableAllInWords onPass
    have := decidableAllInWords onFail
    have : Decidable (∀ id, w.effectId = some id → id.toInt < words32) :=
      Option.decidableForallMem w.effectId
    inferInstanceAs (Decidable (_ ∧ _ ∧ (_ → _ ∧ _)))
termination_by structural entry => entry

/-- Whether the numbers of some entries fit can be decided. -/
def decidableAllInWords : ∀ entries : List Entry, Decidable (AllInWords entries)
  | [] => isTrue trivial
  | entry :: rest =>
    have := decidableInWords entry
    have := decidableAllInWords rest
    inferInstanceAs (Decidable (_ ∧ _))
termination_by structural entries => entries

end

instance (entries : List Entry) : Decidable (AllInWords entries) := decidableAllInWords entries

end Entry

theorem exists_word32?_iff {x : Int64} :
    (∃ n, word32? x = some n) ↔ 0 ≤ x.toInt ∧ x.toInt < words32 := by
  rw [word32?]
  split
  · next fits => exact ⟨fun _ => fits, fun _ => ⟨_, rfl⟩⟩
  · next misfit =>
    constructor
    · rintro ⟨_, found⟩
      cases found
    · exact fun fits => absurd fits misfit

/-- A positive number that fits is the number of an effect. -/
theorem exists_positive_word32?_iff {x : Int64} (positive : 0 < x.toInt) :
    (∃ n, (word32? x).filter (· ≠ 0) = some n) ↔ x.toInt < words32 := by
  constructor
  · rintro ⟨n, found⟩
    exact (exists_word32?_iff.1 ⟨n, (Option.filter_eq_some_iff.1 found).1⟩).2
  · intro small
    have fits : 0 ≤ x.toInt ∧ x.toInt < words32 := ⟨Int.le_of_lt positive, small⟩
    have bound : x.toInt.toNat < 2 ^ 32 := by
      rw [words32] at small
      omega
    have nonzero : UInt32.ofNat x.toInt.toNat ≠ 0 := by
      intro zero
      have toNat := congrArg UInt32.toNat zero
      rw [UInt32.toNat_ofNat_of_lt' bound] at toNat
      have same : x.toInt.toNat = 0 := toNat
      omega
    rw [word32?, if_pos fits]
    exact ⟨_, Option.filter_some_pos (by simpa using nonzero)⟩

/-- A node is lifted exactly if its head is read. -/
theorem Entry.exists_lift_iff {w : StoredNode} {onPass onFail : List Entry} :
    (∃ n, (Entry.node w onPass onFail).lift = .ok n) ↔ ∃ typed, w.head = .ok typed := by
  rw [Entry.lift]
  cases w.head with
  | error fault =>
    constructor
    · rintro ⟨_, found⟩
      cases found
    · rintro ⟨_, found⟩
      cases found
  | ok typed =>
    obtain ⟨order, kind⟩ := typed
    cases kind <;> exact ⟨fun _ => ⟨_, rfl⟩, fun _ => ⟨_, rfl⟩⟩

/-- A node without errors has a type exactly if its numbers fit. -/
theorem StoredNode.exists_head_iff {w : StoredNode} (kind : w.kindProblem? = none)
    (order : 0 ≤ w.order.toInt) :
    (∃ typed, w.head = .ok typed) ↔
      w.order.toInt < words32 ∧ ∀ id, w.effectId = some id → id.toInt < words32 := by
  have order_iff : (∃ n, word32? w.order = some n) ↔ w.order.toInt < words32 := by
    rw [exists_word32?_iff]
    exact and_iff_right order
  have head_iff : (∃ typed, w.head = .ok typed) ↔
      (∃ n, word32? w.order = some n) ∧ ∃ k, w.kind = .ok k := by
    rw [head]
    cases word32? w.order with
    | none => simp
    | some n => cases w.kind <;> simp [Except.map]
  rw [head_iff, order_iff]
  refine and_congr_right fun _ => ?_
  rw [StoredNode.kind]
  rcases kindProblem?_eq_none_iff.1 kind with
    ⟨id, isEffect, notGate, positive⟩ | ⟨name, type, notEffect, isGate, known⟩
  · simp only [isEffect, notGate, Option.some.injEq, forall_eq']
    rw [← exists_positive_word32?_iff positive]
    cases (word32? id).filter (· ≠ 0) with
    | none => simp
    | some n => simp
  · simp [notEffect, isGate, known]

namespace Validator

variable {v : Validator}

mutual

/-- An entry without errors is lifted exactly if its numbers fit, in its branches too. -/
theorem lifts_iff_inWords : ∀ {entry : Entry} {path : NodePath} {earlier : List Visit},
    Harmless (v.entryProblems path earlier entry) → (entry.Lifts ↔ entry.InWords)
  | .unreadable error, path, earlier, harmless => by
    cases harmless _ (List.mem_singleton.2 rfl)
  | .node w onPass onFail, path, earlier, harmless => by
    obtain ⟨kind, -, order, branches⟩ := of_harmless_entryProblems harmless
    rw [Entry.Lifts, Entry.InWords, Entry.exists_lift_iff,
      StoredNode.exists_head_iff kind (StoredNode.nonneg_of_orderProblem? order), and_assoc]
    refine and_congr_right fun _ => and_congr_right fun _ => forall_congr' fun isGate => ?_
    obtain ⟨arrays, _, _, pass, fail⟩ := branches isGate
    rw [allLift_iff_of_harmless pass, allLift_iff_of_harmless fail]
    exact and_iff_right fun branch => StoredNode.exists_items_of_branchProblem? (arrays branch)

theorem allLift_iff_of_harmless : ∀ {entries : List Entry} {path : Nat → NodePath} {index : Nat}
    {earlier : List Visit}, Harmless (v.entriesProblems path index earlier entries) →
      (Entry.AllLift entries ↔ Entry.AllInWords entries)
  | [], _, _, _, _ => Iff.rfl
  | entry :: rest, path, index, earlier, harmless => by
    rw [entriesProblems, harmless_append_iff] at harmless
    rw [Entry.AllLift, Entry.AllInWords, lifts_iff_inWords harmless.1,
      allLift_iff_of_harmless harmless.2]

end

/-- A valid document is lifted without loss exactly if its orders and the numbers of its effects fit
into 32 bits. -/
theorem allLift_iff_allInWords (v : Validator) (d : Document)
    (valid : (v.validate d).valid = true) :
    Entry.AllLift d.entries ↔ Entry.AllInWords d.entries :=
  allLift_iff_of_harmless (valid_validate_iff.1 valid)

/-- A check that leads to an effect with an order. -/
def checkedEffect (order : Int64) : Document := ⟨[
  ⟨none, some "check", withBranch ∅ .onPass [⟨some 3, none, ∅, order, none, 100⟩], 0, none, 100⟩]⟩

theorem allLift_iff_allInWords_check :
    (validate { registry := .empty } (checkedEffect 1)).valid = true ∧
      Entry.AllLift (checkedEffect 1).entries ∧
      (validate { registry := .empty } (checkedEffect 0x100000000)).valid = true ∧
      ¬Entry.AllLift (checkedEffect 0x100000000).entries := by
  have valid : (validate { registry := .empty } (checkedEffect 1)).valid = true := by
    decide +kernel
  have tooHigh : (validate { registry := .empty } (checkedEffect 0x100000000)).valid = true := by
    decide +kernel
  have lifts := allLift_iff_allInWords { registry := .empty } (checkedEffect 1) valid
  have lost := allLift_iff_allInWords { registry := .empty } (checkedEffect 0x100000000) tooHigh
  exact ⟨valid, lifts.2 (by decide +kernel), tooHigh, lost.not.2 (by decide +kernel)⟩

/-- A check that leads to nothing, with an order. -/
def checkAt (order : Int64) : StoredNode where
  effectId := none
  gateName := some "check"
  params := ∅
  order := order
  trigger := none
  chance := 100

/-- A valid document that is not lifted. -/
theorem valid_and_not_allLift :
    (validate { registry := .empty } ⟨[checkAt 0x100000000]⟩).valid = true ∧
      ¬Entry.AllLift (Document.entries ⟨[checkAt 0x100000000]⟩) := by
  have valid : (validate { registry := .empty } ⟨[checkAt 0x100000000]⟩).valid = true := by decide
  refine ⟨valid, fun lifts => ?_⟩
  obtain ⟨⟨⟨n, lifted⟩, -⟩, -⟩ := lifts
  cases lifted

end Validator

end EffectFlow
