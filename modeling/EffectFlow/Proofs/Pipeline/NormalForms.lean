import EffectFlow.Proofs.Pipeline.Lifting

/-!
# Normal forms of stored nodes

Lifting forgives much, and what it gives is sound: numbers of effects are positive, chances are
percentages, and the branches of a gate no longer stand among its parameters
(`Entry.sound_of_lift`).  So the sound nodes are those that lifting gives back from their lowered
form, and a stored node that is lifted and lowered once has reached its normal form
(`StoredNode.lift_normalForm`).
-/

namespace EffectFlow

open Json (Value)

namespace StoredNode

/-- The number of an effect is not zero. -/
theorem ne_zero_of_head {w : StoredNode} {order id : UInt32}
    (head : w.head = .ok (order, .effect id)) : id ≠ 0 := by
  rw [StoredNode.head] at head
  split at head
  · rw [kind] at head
    split at head
    · cases head
    · cases head
    · split at head
      · next positive =>
        cases head
        simpa using (Option.filter_eq_some_iff.1 positive).2
      · cases head
    · split at head <;> cases head
  · cases head

/-- A clamped chance is a hundred at most. -/
theorem clampedChance_le (w : StoredNode) : w.clampedChance.toNat ≤ 100 := by
  rw [clampedChance, UInt8.toNat_ofNat']
  have small : (max 0 (min 100 w.chance.toInt)).toNat ≤ 100 := by omega
  exact Nat.le_trans (Nat.mod_le _ _) small

theorem branchFree_plainParams (w : StoredNode) : BranchFree w.plainParams := by
  intro branch
  rw [plainParams, Dict.get?_filter]
  exact Option.filter_eq_none_iff.2 fun v _ => by cases branch <;> decide

end StoredNode

namespace Entry

mutual

/-- What an entry is lifted to is sound. -/
theorem sound_of_lift : ∀ {entry : Entry} {n : Node}, entry.lift = .ok n → n.Sound
  | .unreadable _, _, lifted => nomatch lifted
  | .node w onPass onFail, n, lifted => by
    rw [Entry.lift] at lifted
    split at lifted
    · cases lifted
    · next head =>
      cases lifted
      exact ⟨StoredNode.ne_zero_of_head head, w.clampedChance_le, w.branchFree_plainParams⟩
    · cases lifted
      exact ⟨w.branchFree_plainParams, soundAll_liftAll onPass, soundAll_liftAll onFail⟩

/-- The entries that have a type are lifted to sound nodes. -/
theorem soundAll_liftAll : ∀ entries : List Entry, Node.SoundAll (liftAll entries)
  | [] => trivial
  | entry :: rest => by
    rw [liftAll]
    split
    · next lifted => exact ⟨sound_of_lift lifted, soundAll_liftAll rest⟩
    · exact soundAll_liftAll rest

end

end Entry

namespace StoredNode

/-- A node is lifted back from its lowered form exactly if it is sound.  What any stored node is
lifted to is sound, and so it is lifted back. -/
theorem lift_normalForm :
    (∀ n : Node, n.lower.lift = .ok n ↔ n.Sound) ∧
      ∀ (w : StoredNode) (n : Node), w.lift = .ok n → n.Sound ∧ n.lower.lift = .ok n := by
  constructor
  · intro n
    exact ⟨Entry.sound_of_lift, Node.lift_lower⟩
  · intro w n lifted
    have sound := Entry.sound_of_lift lifted
    exact ⟨sound, Node.lift_lower sound⟩

/-- An effect with a trigger that does not exist and a chance out of range. -/
def wildEffect : StoredNode := ⟨some 3, none, ∅, 7, some "on_monday", 250⟩

/-- A gate with that effect and something that is no node on pass, and no array on fail. -/
def wildGate : StoredNode where
  effectId := none
  gateName := some "check"
  params := Dict.ofList [
    ("onPass", .array [wildEffect.toValue, .null]), ("onFail", .text "end"), ("value", .int64 12)]
  order := 2
  trigger := some "on_hit"
  chance := -1

/-- The gate with what is left of it. -/
def tameGate : Node :=
  .gate .check (Dict.ofList [("value", .int64 12)]) 2 [.effect 3 ∅ 7 none 100] []

theorem lift_wildGate : wildGate.lift = .ok tameGate := by
  have noNode : (ofValue .null).isOk = false := by decide
  have onPass : Entry.liftAll (wildGate.entries .onPass) = [.effect 3 ∅ 7 none 100] := by
    have items : wildGate.items Branch.onPass.key = [wildEffect.toValue, .null] := by
      have found : wildGate.params.get? Branch.onPass.key =
          some (.array [wildEffect.toValue, .null]) := by decide
      simp [StoredNode.items, items?, found]
    cases unreadable : ofValue .null with
    | ok w =>
      rw [unreadable] at noNode
      cases noNode
    | error fault =>
      rw [entries, items]
      show Entry.liftAll [Entry.ofItem _ 0 wildEffect.toValue, Entry.ofItem _ 1 .null] = _
      rw [Entry.ofItem_of_ok (ofValue_toValue _), Entry.ofItem_of_error unreadable]
      rfl
  have onFail : wildGate.entries .onFail = [] := by decide
  rw [lift, entry, onFail]
  show Except.ok (Node.gate _ _ _ (Entry.liftAll (wildGate.entries .onPass)) []) = _
  rw [onPass]
  have params : wildGate.plainParams = Dict.ofList [("value", .int64 12)] := by decide
  rw [params]
  rfl

theorem lift_normalForm_wildGate :
    wildGate.lift = .ok tameGate ∧ tameGate.Sound ∧ tameGate.lower.lift = .ok tameGate :=
  ⟨lift_wildGate, lift_normalForm.2 wildGate tameGate lift_wildGate⟩

end StoredNode

end EffectFlow
