import EffectFlow.Proofs.Validation.Layers
import EffectFlow.Proofs.Validation.Visits

/-!
# Errors about orders

The problems about orders are those of a run along the visits of a document.  The run looks each
order up among the earlier visits (`Validator.filter_entryProblems` is the step for an entry, and
`Validator.orderErrors_validate` the run over a document).  A table of the orders that are taken,
each with the first node that has it, is all that it needs (`Validator.orderProblems_eq_scan`).

So the errors are exact (`Validator.orderErrors_exact`): a visited node has one if its order is
negative or an earlier node has it, and then one only, which names the first node of this order.
-/

namespace EffectFlow

/-- Is the problem an error of the structure that is about the order of a node? -/
def Problem.isAboutOrder (p : Problem) : Bool :=
  (p.layer = .structural && p.field == some "order") && p.severity = .error

namespace Report

/-- The errors of the structure that are about the order of a node. -/
def orderErrors (r : Report) : List Finding :=
  r.errors.filter fun f => f.layer = .structural && f.field == some "order"

/-- Those of a node. -/
def orderErrorsAt (r : Report) (path : NodePath) : List Finding :=
  r.orderErrors.filter (·.path == path.text)

end Report

namespace Validator

/-! ## Runs along visits -/

/-- The problem of an order, given the earlier visits. -/
def orderProblem? (order : Int64) (earlier : List Visit) : Option Problem :=
  if order.toInt < 0 then some (.negativeOrder order)
  else (earlier.find? (·.1 == order)).map fun first => .duplicateOrder order first.2

/-- The problems of the orders of some visits, given the earlier ones. -/
def orderProblems (earlier : List Visit) : List Visit → List Located
  | [] => []
  | (order, path) :: rest =>
    ((orderProblem? order earlier).toList.map fun p => (path, p)) ++
      orderProblems (earlier ++ [(order, path)]) rest

/-- The problems of the orders of some visits, given a table of the orders that are taken and the
first nodes that have them.  Negative orders are not taken. -/
def scan (taken : List Visit) : List Visit → List Located
  | [] => []
  | (order, path) :: rest =>
    if order.toInt < 0 then (path, .negativeOrder order) :: scan taken rest
    else
      match taken.find? (·.1 == order) with
      | some first => (path, .duplicateOrder order first.2) :: scan taken rest
      | none => scan ((order, path) :: taken) rest

theorem orderProblem?_eq (w : StoredNode) (earlier : List Visit) :
    w.orderProblem? earlier = orderProblem? w.order earlier := by
  rw [StoredNode.orderProblem?, orderProblem?]
  split
  · rfl
  · cases earlier.find? (·.1 == w.order) <;> rfl

/-- Visits are checked in two parts, the second with the first before it. -/
theorem orderProblems_append (front back earlier : List Visit) :
    orderProblems earlier (front ++ back) =
      orderProblems earlier front ++ orderProblems (earlier ++ front) back := by
  induction front generalizing earlier with
  | nil => rw [List.append_nil]; rfl
  | cons x rest ih =>
    rw [List.cons_append, orderProblems, orderProblems, ih, List.append_assoc, List.append_assoc]
    rfl

theorem find?_concat (earlier : List Visit) (order other : Int64) (path : NodePath) :
    (earlier ++ [(order, path)]).find? (·.1 == other) =
      (earlier.find? (·.1 == other)).or (if order = other then some (order, path) else none) := by
  rw [List.find?_append]
  congr 1
  by_cases same : order = other <;> simp [same]

/-- A table that has the first of the earlier visits for each order, unless it is negative, is all
that the run looks at. -/
theorem orderProblems_eq_scan {earlier taken : List Visit}
    (first : ∀ order : Int64, 0 ≤ order.toInt →
      taken.find? (·.1 == order) = earlier.find? (·.1 == order)) (visits : List Visit) :
    orderProblems earlier visits = scan taken visits := by
  induction visits generalizing earlier taken with
  | nil => rfl
  | cons x rest ih =>
    obtain ⟨order, path⟩ := x
    rw [orderProblems, scan, orderProblem?]
    split
    · next negative =>
      refine congrArg _ (ih fun other natural => ?_)
      have different : order ≠ other := by
        rintro rfl
        omega
      rw [find?_concat, if_neg different, Option.or_none, first other natural]
    · next natural =>
      rw [first order (by omega)]
      cases found : earlier.find? (·.1 == order) with
      | some holder =>
        refine congrArg _ (ih fun other natural' => ?_)
        rw [find?_concat, first other natural']
        by_cases same : order = other
        · rw [← same, found, Option.some_or]
        · rw [if_neg same, Option.or_none]
      | none =>
        refine ih fun other natural' => ?_
        rw [find?_concat, List.find?_cons, first other natural']
        by_cases same : order = other
        · simp [← same, found]
        · simp [same, beq_eq_false_iff_ne.2 same]

/-! ## The problems of a node -/

theorem filter_eq_nil_of_layer_ne {problems : List Problem} {layer : CheckLayer}
    (all : ∀ p ∈ problems, p.layer = layer) (other : layer ≠ .structural) :
    problems.filter Problem.isAboutOrder = [] := by
  refine List.filter_eq_nil_iff.2 fun p mem => ?_
  simp [Problem.isAboutOrder, all p mem, other]

/-- Of the common problems of a node only that of its order is about an order. -/
theorem filter_commonProblems (w : StoredNode) (earlier : List Visit) :
    (w.commonProblems earlier).filter Problem.isAboutOrder =
      (orderProblem? w.order earlier).toList := by
  have kind : w.kindProblem?.toList.filter Problem.isAboutOrder = [] := by
    rw [StoredNode.kindProblem?]
    repeat' split
    all_goals rfl
  have chance : (if w.hasPercentage then [] else [Problem.chanceOutOfRange w.chance]).filter
      Problem.isAboutOrder = [] := by
    split <;> rfl
  have order : (orderProblem? w.order earlier).toList.filter Problem.isAboutOrder =
      (orderProblem? w.order earlier).toList := by
    rw [orderProblem?]
    split
    · rfl
    · cases earlier.find? (·.1 == w.order) <;> rfl
  rw [StoredNode.commonProblems, List.filter_append, List.filter_append, kind, chance,
    orderProblem?_eq, order]
  rfl

theorem filter_gateProblems (w : StoredNode) :
    w.gateProblems.filter Problem.isAboutOrder = [] := by
  rw [StoredNode.gateProblems, List.filter_append]
  split <;> split <;> rfl

theorem filter_branchProblem? (w : StoredNode) (branch : Branch) :
    (w.branchProblem? branch).toList.filter Problem.isAboutOrder = [] := by
  rw [StoredNode.branchProblem?]
  split
  · cases branch <;> rfl
  · rfl

theorem filter_effectProblems (w : StoredNode) :
    w.effectProblems.filter Problem.isAboutOrder = [] := by
  refine List.filter_eq_nil_iff.2 fun p mem => ?_
  rcases StoredNode.of_mem_effectProblems mem with ⟨name, rfl⟩ | ⟨branch, rfl⟩
  · exact Bool.false_ne_true
  · cases branch <;> exact Bool.false_ne_true

variable {v : Validator}

theorem filter_legacyPart (w : StoredNode) (path : NodePath) :
    (if v.config.legacyChecks then w.legacyProblems.map fun p => (path, p) else []).filter
      (·.2.isAboutOrder) = [] := by
  split
  · rw [filter_located, filter_eq_nil_of_layer_ne (fun p mem => (of_mem_legacyProblems mem).1)
      (by decide)]
    rfl
  · rfl

mutual

/-- The problems of an entry about orders are those of its visits. -/
theorem filter_entryProblems : ∀ (entry : Entry) (path : NodePath) (earlier : List Visit),
    (v.entryProblems path earlier entry).filter (·.2.isAboutOrder) =
      orderProblems earlier (entry.visits path)
  | .unreadable _, _, _ => rfl
  | .node w onPass onFail, path, earlier => by
    have pass := filter_entriesProblems onPass (path.child .onPass) 0
    have fail := filter_entriesProblems onFail (path.child .onFail) 0
    rw [entryProblems, Entry.visits, orderProblems]
    cases isGate : w.gateName.isSome with
    | true =>
      simp only [if_true, List.filter_append, filter_located, filter_commonProblems,
        filter_gateProblems, filter_branchProblem?, pass, fail, filter_legacyPart,
        orderProblems_append, List.map_nil, List.append_nil, List.nil_append]
    | false =>
      have schema : (schemaProblems v.registry w).filter Problem.isAboutOrder = [] :=
        filter_eq_nil_of_layer_ne (fun p mem => (of_mem_schemaProblems mem).1) (by decide)
      simp only [Bool.false_eq_true, if_false, List.filter_append, filter_located,
        filter_commonProblems, filter_effectProblems, schema, filter_legacyPart, List.map_nil,
        List.append_nil, orderProblems]

theorem filter_entriesProblems : ∀ (entries : List Entry) (path : Nat → NodePath) (index : Nat)
    (earlier : List Visit), (v.entriesProblems path index earlier entries).filter
      (·.2.isAboutOrder) = orderProblems earlier (Entry.visitsOf path index entries)
  | [], _, _, _ => rfl
  | entry :: rest, path, index, earlier => by
    rw [entriesProblems, List.filter_append, filter_entryProblems entry,
      filter_entriesProblems rest, Entry.visitsOf, orderProblems_append]

end

/-! ## Documents -/

variable {d : Document}

/-- The errors about orders are what a run along the visits finds. -/
theorem orderErrors_validate (v : Validator) (d : Document) :
    (v.validate d).orderErrors = (orderProblems [] d.visits).map fun x => x.2.finding x.1 := by
  have walk : (v.problems d).filter (·.2.isAboutOrder) = orderProblems [] d.visits :=
    filter_entriesProblems d.entries .top 0 []
  have first : (if v.registry.isReady then [] else [notLoaded]).filter (fun f =>
      (f.layer = .structural && f.field == some "order") && f.severity = .error) = [] := by
    split <;> rfl
  rw [← walk]
  show ((v.findings d).filter (·.severity = .error)).filter _ = _
  rw [List.filter_filter, findings, List.filter_append, first, List.nil_append, List.filter_map]
  rfl

theorem exists_visit_of_mem_orderProblems {earlier visits : List Visit} {x : Located}
    (mem : x ∈ orderProblems earlier visits) : ∃ y ∈ visits, y.2 = x.1 := by
  induction visits generalizing earlier with
  | nil => cases mem
  | cons y rest ih =>
    rw [orderProblems, List.mem_append] at mem
    rcases mem with here | later
    · obtain ⟨p, -, rfl⟩ := List.mem_map.1 here
      exact ⟨y, List.mem_cons_self, rfl⟩
    · obtain ⟨z, mem, at_path⟩ := ih later
      exact ⟨z, List.mem_cons_of_mem y mem, at_path⟩

/-- Problems of other visits are not at the path. -/
theorem filter_orderProblems_eq_nil {earlier visits : List Visit} {path : NodePath}
    (other : path.text ∉ visits.map (·.2.text)) :
    ((orderProblems earlier visits).map fun x => x.2.finding x.1).filter
      (·.path == path.text) = [] := by
  refine List.filter_eq_nil_iff.2 fun f mem same => other ?_
  obtain ⟨x, found, rfl⟩ := List.mem_map.1 mem
  obtain ⟨y, visited, at_path⟩ := exists_visit_of_mem_orderProblems found
  rw [← eq_of_beq same]
  exact List.mem_map.2 ⟨y, visited, congrArg NodePath.text at_path⟩

/-- The errors about the order of a visited node are those that the earlier visits lead to. -/
theorem orderErrorsAt_validate {front back : List Visit} {order : Int64} {path : NodePath}
    (visits : d.visits = front ++ (order, path) :: back) :
    (v.validate d).orderErrorsAt path =
      ((orderProblem? order front).toList.map fun p => p.finding path) := by
  have texts := d.nodup_texts
  rw [visits, List.map_append, List.map_cons, List.nodup_middle, List.nodup_cons,
    List.mem_append, not_or] at texts
  obtain ⟨⟨notFront, notBack⟩, -⟩ := texts
  have here : ((((orderProblem? order front).toList.map fun p => (path, p)).map fun x =>
      x.2.finding x.1).filter (·.path == path.text)) =
        (orderProblem? order front).toList.map fun p => p.finding path := by
    rw [List.map_map]
    refine List.filter_eq_self.2 fun f mem => ?_
    obtain ⟨p, -, rfl⟩ := List.mem_map.1 mem
    exact beq_self_eq_true path.text
  rw [Report.orderErrorsAt, orderErrors_validate, visits, orderProblems_append, orderProblems,
    List.nil_append, List.map_append, List.map_append, List.filter_append, List.filter_append, here,
    filter_orderProblems_eq_nil notFront, filter_orderProblems_eq_nil notBack, List.append_nil,
    List.nil_append]

/-- An order has no problem exactly if it is not negative and none of the earlier ones. -/
theorem orderProblem?_eq_none_iff {order : Int64} {earlier : List Visit} :
    orderProblem? order earlier = none ↔ 0 ≤ order.toInt ∧ order ∉ earlier.map Prod.fst := by
  rw [orderProblem?]
  split
  · next negative =>
    exact iff_of_false (Option.some_ne_none _) fun both => Int.not_le.2 negative both.1
  · next natural =>
    rw [Option.map_eq_none_iff, List.find?_eq_none, List.mem_map]
    constructor
    · intro free
      refine ⟨Int.not_lt.1 natural, ?_⟩
      rintro ⟨x, mem, rfl⟩
      exact free x mem (beq_self_eq_true x.1)
    · intro both x mem same
      exact both.2 ⟨x, mem, eq_of_beq same⟩

theorem orderProblem?_ne_none_iff {order : Int64} {earlier : List Visit} :
    orderProblem? order earlier ≠ none ↔ order.toInt < 0 ∨ ∃ x ∈ earlier, x.1 = order := by
  rw [ne_eq, orderProblem?_eq_none_iff, Decidable.not_and_iff_not_or_not, Int.not_le, not_not,
    List.mem_map]

/-- What is wrong with an order: it is negative, or the first node that has it is named. -/
theorem of_orderProblem?_eq_some {order : Int64} {earlier : List Visit} {p : Problem}
    (found : orderProblem? order earlier = some p) (later : List Visit) :
    (order.toInt < 0 ∧ p = .negativeOrder order) ∨
      (0 ≤ order.toInt ∧ ∃ first, (earlier ++ later).find? (·.1 == order) = some first ∧
        p = .duplicateOrder order first.2) := by
  rw [orderProblem?] at found
  split at found
  · next negative =>
    cases found
    exact .inl ⟨negative, rfl⟩
  · next natural =>
    obtain ⟨first, first_eq, rfl⟩ := Option.map_eq_some_iff.1 found
    refine .inr ⟨Int.not_lt.1 natural, first, ?_, rfl⟩
    rw [List.find?_append, first_eq, Option.some_or]

/-- Visits have no problem exactly if their orders are not negative, distinct, and none of the
earlier ones. -/
theorem orderProblems_eq_nil_iff {earlier visits : List Visit} :
    orderProblems earlier visits = [] ↔
      (∀ x ∈ visits, 0 ≤ x.1.toInt) ∧ (earlier.map Prod.fst).Disjoint (visits.map Prod.fst) ∧
        (visits.map Prod.fst).Nodup := by
  induction visits generalizing earlier with
  | nil => simp [orderProblems]
  | cons x rest ih =>
    obtain ⟨order, path⟩ := x
    rw [orderProblems, List.append_eq_nil_iff, List.map_eq_nil_iff, Option.toList_eq_nil_iff,
      orderProblem?_eq_none_iff, ih]
    rw [List.forall_mem_cons, List.map_append, List.map_cons, List.map_nil, List.map_cons,
      List.disjoint_append_left, List.singleton_disjoint, List.disjoint_cons_right,
      List.nodup_cons]
    constructor
    · rintro ⟨⟨natural, free⟩, naturals, ⟨apart, new⟩, distinct⟩
      exact ⟨⟨natural, naturals⟩, ⟨free, apart⟩, new, distinct⟩
    · rintro ⟨⟨natural, naturals⟩, ⟨free, apart⟩, new, distinct⟩
      exact ⟨⟨natural, free⟩, naturals, ⟨apart, new⟩, distinct⟩

/-- There are no errors about orders exactly if no order is negative and none comes twice. -/
theorem orderErrors_eq_nil_iff :
    (v.validate d).orderErrors = [] ↔
      (∀ x ∈ d.visits, 0 ≤ x.1.toInt) ∧ (d.visits.map Prod.fst).Nodup := by
  rw [orderErrors_validate, List.map_eq_nil_iff, orderProblems_eq_nil_iff]
  exact and_congr_right fun _ => and_iff_right (List.disjoint_nil_left _)

/-- The errors about orders are exact.  The visits are nodes of the document, and a run along them
with a table of the orders that are taken finds the errors.  A visited node has an error exactly if
its order is negative or that of an earlier node.  It has one at most, which names the first node of
the order.  No errors are elsewhere. -/
theorem orderErrors_exact (v : Validator) (d : Document) :
    (∀ x ∈ d.visits, ∃ w onPass onFail,
      Document.entry? d x.2 = some (.node w onPass onFail) ∧ w.order = x.1) ∧
    (v.validate d).orderErrors = ((scan [] d.visits).map fun x => x.2.finding x.1) ∧
    (∀ front order path back, d.visits = front ++ (order, path) :: back →
      ((v.validate d).orderErrorsAt path ≠ [] ↔ order.toInt < 0 ∨ ∃ x ∈ front, x.1 = order) ∧
      ((v.validate d).orderErrorsAt path).length ≤ 1 ∧
      ∀ f ∈ (v.validate d).orderErrorsAt path,
        (order.toInt < 0 ∧ f = (Problem.negativeOrder order).finding path) ∨
        (0 ≤ order.toInt ∧ ∃ first, d.visits.find? (·.1 == order) = some first ∧
          f = (Problem.duplicateOrder order first.2).finding path)) ∧
    (∀ f ∈ (v.validate d).orderErrors, ∃ x ∈ d.visits, f.path = x.2.text) ∧
    ((v.validate d).orderErrors = [] ↔
      (∀ x ∈ d.visits, 0 ≤ x.1.toInt) ∧ (d.visits.map Prod.fst).Nodup) := by
  refine ⟨fun x mem => Document.exists_entry?_of_mem_visits mem, ?scan,
    fun front order path back visits => ?visited, fun f mem => ?elsewhere, ?none⟩
  case scan => rw [orderErrors_validate, orderProblems_eq_scan fun _ _ => rfl]
  case visited =>
    rw [orderErrorsAt_validate visits]
    refine ⟨?_, ?_, fun f mem => ?_⟩
    · rw [ne_eq, List.map_eq_nil_iff, Option.toList_eq_nil_iff]
      exact orderProblem?_ne_none_iff
    · rw [List.length_map]
      exact Option.length_toList_le
    · obtain ⟨p, found, rfl⟩ := List.mem_map.1 mem
      rw [visits]
      rcases of_orderProblem?_eq_some (Option.mem_toList.1 found) ((order, path) :: back) with
        ⟨negative, rfl⟩ | ⟨natural, first, first_eq, rfl⟩
      · exact .inl ⟨negative, rfl⟩
      · exact .inr ⟨natural, first, first_eq, rfl⟩
  case elsewhere =>
    rw [orderErrors_validate] at mem
    obtain ⟨x, found, rfl⟩ := List.mem_map.1 mem
    obtain ⟨y, visited, at_path⟩ := exists_visit_of_mem_orderProblems found
    exact ⟨y, visited, congrArg NodePath.text at_path.symm⟩
  case none => exact orderErrors_eq_nil_iff

/-- A gate of order zero over a summons of the same order and a script of a negative order, and a
script of order zero after the gate. -/
def crowded : Document := ⟨[
  ⟨none, some "chance", withBranch ∅ .onPass
    [⟨some 7, none, ∅, 0, none, 100⟩, ⟨some 9, none, ∅, -1, none, 100⟩], 0, none, 100⟩,
  ⟨some 9, none, ∅, 0, none, 100⟩]⟩

theorem orderErrors_exact_crowded :
    crowded.visits = [(0, .top 0), (0, (NodePath.top 0).child .onPass 0),
      (-1, (NodePath.top 0).child .onPass 1), (0, .top 1)] ∧
    (lenient.validate crowded).orderErrorsAt (.top 0) = [] ∧
    (lenient.validate crowded).orderErrorsAt (.top 1) =
      [(Problem.duplicateOrder 0 (.top 0)).finding (.top 1)] ∧
    (lenient.validate crowded).orderErrors ≠ [] := by
  have visits : crowded.visits = [(0, .top 0), (0, (NodePath.top 0).child .onPass 0),
      (-1, (NodePath.top 0).child .onPass 1), (0, .top 1)] := by decide +kernel
  obtain ⟨-, -, visited, -, none⟩ := orderErrors_exact lenient crowded
  obtain ⟨first, -, -⟩ := visited [] 0 (.top 0) _ visits
  obtain ⟨last, one, which⟩ := visited [_, _, _] 0 (.top 1) [] visits
  refine ⟨visits, ?_, ?_, fun empty => ?_⟩
  · by_contra filled
    rcases first.1 filled with negative | ⟨x, mem, -⟩
    · exact absurd negative (by decide)
    · cases mem
  · have filled := last.2 (.inr ⟨_, List.mem_cons_self, rfl⟩)
    obtain ⟨f, only⟩ :=
      List.length_eq_one_iff.1 (Nat.le_antisymm one (List.length_pos_iff.2 filled))
    rw [only] at which ⊢
    rcases which f (List.mem_singleton.2 rfl) with ⟨negative, -⟩ | ⟨-, holder, found, rfl⟩
    · exact absurd negative (by decide)
    · rw [visits] at found
      cases found
      rfl
  · have distinct := (none.1 empty).2
    rw [visits] at distinct
    exact absurd distinct (by decide)

end Validator

end EffectFlow
