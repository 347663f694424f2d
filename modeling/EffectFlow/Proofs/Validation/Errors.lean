import EffectFlow.Validation.Validator

/-!
# Documents without errors

A document is valid exactly if every problem in it is a warning (`Validator.valid_validate_iff`).
So every visited node of a valid document has one kind, a percentage for a chance and an order that
is not negative, and the branches of its gates are arrays of nodes
(`Validator.of_harmless_entryProblems`).
-/

namespace EffectFlow

/-- None of the problems is an error. -/
def Harmless (located : List Located) : Prop := ∀ x ∈ located, x.2.severity = .warning

theorem harmless_append_iff {front back : List Located} :
    Harmless (front ++ back) ↔ Harmless front ∧ Harmless back :=
  List.forall_mem_append

/-- Problems at a path are harmless if each is a warning. -/
theorem harmless_map_iff {path : NodePath} {problems : List Problem} :
    Harmless (problems.map fun p => (path, p)) ↔ ∀ p ∈ problems, p.severity = .warning := by
  rw [Harmless, List.forall_mem_map]

theorem Severity.ne_error_iff {s : Severity} : s ≠ .error ↔ s = .warning := by
  cases s <;> decide

namespace Validator

/-- A document is valid exactly if none of its problems is an error. -/
theorem valid_validate_iff {v : Validator} {d : Document} :
    (v.validate d).valid = true ↔ Harmless (v.problems d) := by
  have all : (v.validate d).valid = true ↔ ∀ f ∈ v.findings d, f.severity ≠ .error := by
    show ((v.findings d).filter (·.severity = .error)).isEmpty = true ↔ _
    rw [List.isEmpty_iff, List.filter_eq_nil_iff]
    simp only [decide_eq_true_eq]
  rw [all, findings, List.forall_mem_append, List.forall_mem_map]
  constructor
  · intro h x mem
    exact Severity.ne_error_iff.1 (h.2 x mem)
  · intro h
    refine ⟨fun f mem => ?_, fun x mem => Severity.ne_error_iff.2 (h x mem)⟩
    split at mem
    · cases mem
    · rw [List.mem_singleton.1 mem]
      decide

end Validator

namespace StoredNode

/-! ## Nodes -/

/-- A node without a problem of kind is an effect with a positive number or a known gate. -/
theorem kindProblem?_eq_none_iff {w : StoredNode} :
    w.kindProblem? = none ↔
      (∃ id, w.effectId = some id ∧ w.gateName = none ∧ 0 < id.toInt) ∨
        ∃ name type, w.effectId = none ∧ w.gateName = some name ∧
          GateKind.ofName? name = some type := by
  rw [kindProblem?]
  cases w.effectId with
  | some id =>
    cases w.gateName with
    | some name => simp
    | none =>
      simp only [Option.some.injEq]
      split
      · next zero => simp [zero]
      · next nonzero =>
        split
        · next negative =>
          simp only [reduceCtorEq, false_and, and_false, exists_false, or_false, false_iff]
          rintro ⟨_, rfl, -, positive⟩
          omega
        · next notNegative =>
          simp only [true_iff]
          exact .inl ⟨id, rfl, trivial, by omega⟩
  | none =>
    cases w.gateName with
    | none => simp
    | some name =>
      cases known : GateKind.ofName? name <;> simp [known]

theorem severity_of_kindProblem? {w : StoredNode} {p : Problem} (h : w.kindProblem? = some p) :
    p.severity = .error := by
  rw [kindProblem?] at h
  split at h
  · cases h; rfl
  · cases h; rfl
  · split at h
    · cases h; rfl
    · split at h
      · cases h; rfl
      · cases h
  · split at h
    · cases h; rfl
    · cases h

theorem severity_of_orderProblem? {w : StoredNode} {earlier : List Visit} {p : Problem}
    (h : w.orderProblem? earlier = some p) : p.severity = .error := by
  rw [orderProblem?] at h
  split at h
  · cases h; rfl
  · split at h
    · cases h; rfl
    · cases h

theorem nonneg_of_orderProblem? {w : StoredNode} {earlier : List Visit}
    (h : w.orderProblem? earlier = none) : 0 ≤ w.order.toInt := by
  rw [orderProblem?] at h
  split at h
  · cases h
  · next notNegative => exact Int.not_lt.1 notNegative

theorem severity_of_branchProblem? {w : StoredNode} {branch : Branch} {p : Problem}
    (h : w.branchProblem? branch = some p) : p.severity = .error := by
  rw [branchProblem?] at h
  split at h
  · cases h; rfl
  · cases h

theorem exists_items_of_branchProblem? {w : StoredNode} {branch : Branch}
    (h : w.branchProblem? branch = none) : ∃ items, w.items? branch.key = .ok items := by
  rw [branchProblem?] at h
  split at h
  · cases h
  · next items found => exact ⟨items, found⟩

/-- An effect has a trigger that is none, or branches. -/
theorem of_mem_effectProblems {w : StoredNode} {p : Problem} (mem : p ∈ w.effectProblems) :
    (∃ name, p = .unknownTrigger name) ∨ ∃ branch, p = .branchOnEffect branch := by
  rw [effectProblems, List.mem_append] at mem
  rcases mem with trigger | given
  · split at trigger
    · split at trigger
      · exact .inl ⟨_, List.mem_singleton.1 trigger⟩
      · cases trigger
    · cases trigger
  · obtain ⟨branch, -, rfl⟩ := List.mem_map.1 given
    exact .inr ⟨branch, rfl⟩

/-- A problem that is an error is not there if all are harmless. -/
theorem eq_none_of_harmless {path : NodePath} {problem? : Option Problem}
    (error : ∀ p, problem? = some p → p.severity = .error)
    (h : Harmless (problem?.toList.map fun p => (path, p))) : problem? = none := by
  cases problem? with
  | none => rfl
  | some p =>
    have warning := harmless_map_iff.1 h p (List.mem_singleton.2 rfl)
    rw [error p rfl] at warning
    cases warning

/-- A node whose common problems are harmless has a kind, a percentage and an order without
problems. -/
theorem of_harmless_commonProblems {w : StoredNode} {path : NodePath} {earlier : List Visit}
    (h : Harmless ((w.commonProblems earlier).map fun p => (path, p))) :
    w.kindProblem? = none ∧ w.hasPercentage = true ∧ w.orderProblem? earlier = none := by
  rw [commonProblems, List.map_append, List.map_append, harmless_append_iff,
    harmless_append_iff] at h
  obtain ⟨⟨kind, chance⟩, order⟩ := h
  refine ⟨eq_none_of_harmless (fun _ => severity_of_kindProblem?) kind, ?_,
    eq_none_of_harmless (fun _ => severity_of_orderProblem?) order⟩
  by_cases percentage : w.hasPercentage = true
  · exact percentage
  · rw [if_neg percentage] at chance
    cases harmless_map_iff.1 chance _ (List.mem_singleton.2 rfl)

end StoredNode

/-! ## Entries -/

namespace Validator

/-- What a node is like, and what stands in its branches, if none of its problems is an error. -/
theorem of_harmless_entryProblems {v : Validator} {path : NodePath} {earlier : List Visit}
    {w : StoredNode} {onPass onFail : List Entry}
    (h : Harmless (v.entryProblems path earlier (.node w onPass onFail))) :
    w.kindProblem? = none ∧ w.hasPercentage = true ∧ w.orderProblem? earlier = none ∧
      (w.gateName.isSome = true →
        (∀ branch, w.branchProblem? branch = none) ∧
          ∃ passEarlier failEarlier,
            Harmless (v.entriesProblems (path.child .onPass) 0 passEarlier onPass) ∧
              Harmless (v.entriesProblems (path.child .onFail) 0 failEarlier onFail)) := by
  rw [entryProblems, harmless_append_iff, harmless_append_iff] at h
  obtain ⟨⟨common, own⟩, -⟩ := h
  obtain ⟨kind, chance, order⟩ := StoredNode.of_harmless_commonProblems common
  refine ⟨kind, chance, order, fun isGate => ?_⟩
  rw [if_pos isGate] at own
  simp only [harmless_append_iff] at own
  obtain ⟨⟨⟨⟨-, passArray⟩, pass⟩, failArray⟩, fail⟩ := own
  refine ⟨fun branch => ?_, _, _, pass, fail⟩
  cases branch with
  | onPass =>
    exact StoredNode.eq_none_of_harmless (fun _ => StoredNode.severity_of_branchProblem?) passArray
  | onFail =>
    exact StoredNode.eq_none_of_harmless (fun _ => StoredNode.severity_of_branchProblem?) failArray

end Validator

end EffectFlow
