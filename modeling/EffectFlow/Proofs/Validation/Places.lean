import EffectFlow.Proofs.Validation.Layers
import EffectFlow.Proofs.Validation.Visits

/-!
# Findings name what they are about

A document is walked along a path: from a node of the top level to an item of the array that a
branch has among its parameters, and so on.  What stands there is a `Place`, a node or something
that is no node.  Entries are what the places hold (`Document.entry?_eq`).

A validator raises problems at its stops (`Validator.raised`).  Every problem of a document is one
of these (`Validator.exists_stop_of_mem_entriesProblems`).  The problems at the path of a stop are
those raised there, in order (`Validator.filter_path_entriesProblems`): what is raised elsewhere has
another path.

So a finding names a place of the document, the one it was raised for, and the errors at a path are
about one place (`Validator.findings_faithful`).
-/

namespace EffectFlow

open Json (Value)

/-! ## Places -/

/-- Something that stands in a document. -/
inductive Place where
  /-- A node. -/
  | node (w : StoredNode)
  /-- An item of a branch that is no node. -/
  | item (branch : Branch) (index : Nat) (v : Value)

/-- What a place holds. -/
def Place.entry : Place → Entry
  | node w => w.entry
  | item branch index v => .ofItem branch.key index v

/-- The place at the end of some steps from a node. -/
def StoredNode.walk? (w : StoredNode) : List (Branch × Nat) → Option Place
  | [] => some (.node w)
  | (branch, i) :: rest =>
    (w.items branch.key)[i]?.bind fun v =>
      match StoredNode.ofValue v with
      | .ok next => next.walk? rest
      | .error _ => if rest.isEmpty then some (.item branch i v) else none

/-- The place at a path. -/
def Document.walk? (d : Document) (path : NodePath) : Option Place :=
  d.nodes[path.index]?.bind fun w => w.walk? path.steps

theorem StoredNode.entriesOf_entry (w : StoredNode) (branch : Branch) :
    w.entry.entriesOf branch = w.entries branch := by
  cases branch <;> rfl

/-- Entries are followed as nodes are walked. -/
theorem StoredNode.follow?_entry (w : StoredNode) (steps : List (Branch × Nat)) :
    w.entry.follow? steps = (w.walk? steps).map Place.entry := by
  induction steps generalizing w with
  | nil => rfl
  | cons step rest ih =>
    obtain ⟨branch, i⟩ := step
    rw [Entry.follow?, walk?, w.entriesOf_entry, entries, List.getElem?_mapIdx]
    cases (w.items branch.key)[i]? with
    | none => rfl
    | some v =>
      simp only [Option.map_some, Option.bind_some]
      cases read : ofValue v with
      | ok next =>
        rw [Entry.ofItem_of_ok read]
        exact ih next
      | error fault =>
        cases rest with
        | nil => rfl
        | cons step' rest' =>
          rw [Entry.ofItem_of_error read]
          rfl

/-- The entry at a path is what the place there holds. -/
theorem Document.entry?_eq (d : Document) (path : NodePath) :
    Document.entry? d path = (d.walk? path).map Place.entry := by
  unfold entry?
  rw [walk?, entries, List.getElem?_map]
  cases d.nodes[path.index]? with
  | none => rfl
  | some w => exact w.follow?_entry path.steps

/-- At a stop stands a place. -/
theorem Document.walk?_of_mem_stops {d : Document} {stop : Stop} (mem : stop ∈ d.stops) :
    ∃ place, d.walk? stop.path = some place ∧ place.entry = stop.entry := by
  have found := entry?_of_mem_stops mem
  rwa [entry?_eq, Option.map_eq_some_iff] at found

namespace Validator

/-! ## Problems by stop -/

/-- The problems that are raised at a stop. -/
def raised (v : Validator) (stop : Stop) : List Problem :=
  match stop.entry with
  | .unreadable error => [.unreadableEntry error]
  | .node w _ _ =>
    w.commonProblems stop.earlier ++
      (if w.gateName.isSome then
        w.gateProblems ++ (w.branchProblem? .onPass).toList ++ (w.branchProblem? .onFail).toList
      else w.effectProblems ++ schemaProblems v.registry w) ++
      (if v.config.legacyChecks then w.legacyProblems else [])

variable {v : Validator}

/-- The problems of an entry that is a node are raised there, or stand below a gate. -/
theorem mem_entryProblems_node {w : StoredNode} {onPass onFail : List Entry} {path : NodePath}
    {earlier : List Visit} {x : Located} :
    x ∈ v.entryProblems path earlier (.node w onPass onFail) ↔
      (x.1 = path ∧ x.2 ∈ v.raised ⟨path, earlier, .node w onPass onFail⟩) ∨
        (w.gateName.isSome ∧
          let passEarlier := earlier ++ [(w.order, path)]
          let failEarlier := passEarlier ++ Entry.visitsOf (path.child .onPass) 0 onPass
          (x ∈ v.entriesProblems (path.child .onPass) 0 passEarlier onPass ∨
            x ∈ v.entriesProblems (path.child .onFail) 0 failEarlier onFail)) := by
  have own (problems : List Problem) :
      x ∈ problems.map (fun p => (path, p)) ↔ x.1 = path ∧ x.2 ∈ problems := by
    constructor
    · intro mem
      obtain ⟨p, here, rfl⟩ := List.mem_map.1 mem
      exact ⟨rfl, here⟩
    · rintro ⟨rfl, mem⟩
      exact List.mem_map.2 ⟨x.2, mem, rfl⟩
  simp only [entryProblems, raised]
  cases w.gateName.isSome <;> cases v.config.legacyChecks <;>
    simp only [List.mem_append, own, if_true, Bool.false_eq_true, if_false, List.not_mem_nil] <;>
    grind

/-- What is raised at a node is about its fields, about a branch that is no array, about its
parameters, or of the legacy table. -/
theorem of_mem_raised_node {w : StoredNode} {onPass onFail : List Entry} {path : NodePath}
    {earlier : List Visit} {p : Problem}
    (mem : p ∈ v.raised ⟨path, earlier, .node w onPass onFail⟩) :
    p.OfFields ∨ (∃ branch, p ∈ (w.branchProblem? branch).toList) ∨
      p ∈ schemaProblems v.registry w ∨ p ∈ w.legacyProblems := by
  simp only [raised, List.mem_append] at mem
  rcases mem with (common | own) | legacy
  · exact .inl (ofFields_of_mem_commonProblems p common)
  · split at own
    · rw [List.mem_append, List.mem_append] at own
      rcases own with (gate | pass) | fail
      · exact .inl (ofFields_of_mem_gateProblems p gate)
      · exact .inr (.inl ⟨.onPass, pass⟩)
      · exact .inr (.inl ⟨.onFail, fail⟩)
    · rcases List.mem_append.1 own with effect | schema
      · exact .inl (ofFields_of_mem_effectProblems p effect)
      · exact .inr (.inr (.inl schema))
  · split at legacy
    · exact .inr (.inr (.inr legacy))
    · cases legacy

mutual

/-- Each problem of an entry is raised at a stop of the entry, and has its path. -/
theorem exists_stop_of_mem_entryProblems : ∀ {entry : Entry} {path : NodePath}
    {earlier : List Visit} {x : Located}, x ∈ v.entryProblems path earlier entry →
      ∃ stop ∈ entry.stops path earlier, stop.path = x.1 ∧ x.2 ∈ v.raised stop
  | .unreadable error, path, earlier, x, mem => by
    rw [List.mem_singleton.1 mem]
    exact ⟨_, List.mem_singleton_self _, rfl, List.mem_singleton_self _⟩
  | .node w onPass onFail, path, earlier, x, mem => by
    rw [Entry.stops]
    rcases mem_entryProblems_node.1 mem with ⟨rfl, own⟩ | ⟨isGate, below⟩
    · exact ⟨_, List.mem_cons_self, rfl, own⟩
    · rw [if_pos isGate]
      rcases below with pass | fail
      · obtain ⟨stop, at_pass, found⟩ := exists_stop_of_mem_entriesProblems pass
        exact ⟨stop, List.mem_cons_of_mem _ (List.mem_append_left _ at_pass), found⟩
      · obtain ⟨stop, at_fail, found⟩ := exists_stop_of_mem_entriesProblems fail
        exact ⟨stop, List.mem_cons_of_mem _ (List.mem_append_right _ at_fail), found⟩

/-- Every problem is raised at a stop, and has its path. -/
theorem exists_stop_of_mem_entriesProblems : ∀ {entries : List Entry} {path : Nat → NodePath}
    {index : Nat} {earlier : List Visit} {x : Located},
      x ∈ v.entriesProblems path index earlier entries →
        ∃ stop ∈ Entry.stopsOf path index earlier entries, stop.path = x.1 ∧ x.2 ∈ v.raised stop
  | [], _, _, _, _, mem => (List.not_mem_nil mem).elim
  | entry :: rest, path, index, earlier, x, mem => by
    rw [Entry.stopsOf]
    rcases List.mem_append.1 mem with here | later
    · obtain ⟨stop, at_entry, found⟩ := exists_stop_of_mem_entryProblems here
      exact ⟨stop, List.mem_append_left _ at_entry, found⟩
    · obtain ⟨stop, at_later, found⟩ := exists_stop_of_mem_entriesProblems later
      exact ⟨stop, List.mem_append_right _ at_later, found⟩

end

/-- The problems of an entry stand at its path or below it. -/
theorem leads_of_mem_entryProblems {entry : Entry} {path : NodePath} {earlier : List Visit}
    {x : Located} (mem : x ∈ v.entryProblems path earlier entry) : path.Leads x.1 := by
  obtain ⟨stop, at_stop, path_eq, -⟩ := exists_stop_of_mem_entryProblems mem
  rw [← path_eq]
  exact Entry.leads_of_mem_stops at_stop

theorem exists_leads_of_mem_entriesProblems {entries : List Entry} {path : Nat → NodePath}
    {index : Nat} {earlier : List Visit} {x : Located}
    (mem : x ∈ v.entriesProblems path index earlier entries) :
    ∃ i, index ≤ i ∧ (path i).Leads x.1 := by
  obtain ⟨stop, at_stop, path_eq, -⟩ := exists_stop_of_mem_entriesProblems mem
  rw [← path_eq]
  exact Entry.exists_leads_of_mem_stopsOf at_stop

/-- The problems of a branch are not those of the node. -/
theorem filter_path_below {entries : List Entry} {path : NodePath} {branch : Branch} {index : Nat}
    {earlier : List Visit} :
    (v.entriesProblems (path.child branch) index earlier entries).filter (·.1 = path) = [] := by
  refine List.filter_eq_nil_iff.2 fun x mem => ?_
  obtain ⟨i, -, leads⟩ := exists_leads_of_mem_entriesProblems mem
  rw [decide_eq_true_iff]
  rintro rfl
  exact NodePath.not_leads_child_self x.1 branch i leads

/-- The problems of a branch are not below another one. -/
theorem filter_path_beside {entries : List Entry} {path target : NodePath} {branch other : Branch}
    {index i : Nat} {earlier : List Visit} (leads : (path.child other i).Leads target)
    (different : branch ≠ other) :
    (v.entriesProblems (path.child branch) index earlier entries).filter (·.1 = target) = [] := by
  refine List.filter_eq_nil_iff.2 fun x mem => ?_
  obtain ⟨i', -, leads'⟩ := exists_leads_of_mem_entriesProblems mem
  rw [decide_eq_true_iff]
  rintro rfl
  exact different (NodePath.child_inj leads' leads).1

/-- The problems of a node are at its path. -/
theorem filter_path_own {path target : NodePath} (problems : List Problem) :
    (problems.map fun p => (path, p)).filter (·.1 = target) =
      if path = target then problems.map fun p => (path, p) else [] := by
  split
  · next same => exact List.filter_eq_self.2 (by simp [same])
  · next different => exact List.filter_eq_nil_iff.2 (by simp [different])

/-- What is away from a gate stands in its branches. -/
theorem filter_path_gate {w : StoredNode} {onPass onFail : List Entry} {path target : NodePath}
    {earlier : List Visit} (isGate : w.gateName.isSome) (away : path ≠ target) :
    (v.entryProblems path earlier (.node w onPass onFail)).filter (·.1 = target) =
      (v.entriesProblems (path.child .onPass) 0 (earlier ++ [(w.order, path)]) onPass).filter
          (·.1 = target) ++
        (v.entriesProblems (path.child .onFail) 0
          (earlier ++ [(w.order, path)] ++ Entry.visitsOf (path.child .onPass) 0 onPass)
          onFail).filter (·.1 = target) := by
  rw [entryProblems, if_pos isGate]
  cases v.config.legacyChecks <;>
    simp only [if_true, Bool.false_eq_true, if_false, List.filter_append, filter_path_own, away,
      List.append_nil, List.nil_append]

mutual

/-- At the path of a stop there are just the problems that are raised at this stop. -/
theorem filter_path_entryProblems : ∀ {entry : Entry} {path : NodePath} {earlier : List Visit}
    {stop : Stop}, stop ∈ entry.stops path earlier →
      (v.entryProblems path earlier entry).filter (·.1 = stop.path) =
        (v.raised stop).map fun p => (stop.path, p)
  | .unreadable error, path, earlier, stop, mem => by
    rw [List.mem_singleton.1 mem]
    exact List.filter_eq_self.2 (by simp [entryProblems])
  | .node w onPass onFail, path, earlier, stop, mem => by
    rw [Entry.stops, List.mem_cons] at mem
    rcases mem with rfl | below
    · simp only [entryProblems, raised]
      cases w.gateName.isSome <;> cases v.config.legacyChecks <;>
        simp only [if_true, Bool.false_eq_true, if_false, List.filter_append, filter_path_own,
          filter_path_below, List.map_append, List.append_nil, List.nil_append, List.append_assoc]
    · split at below
      · next isGate =>
        rcases List.mem_append.1 below with pass | fail
        · obtain ⟨i, -, leads⟩ := Entry.exists_leads_of_mem_stopsOf pass
          have here := filter_path_entriesProblems (path.forks_child .onPass) pass
          rw [filter_path_gate isGate leads.ne, here, filter_path_beside leads (by decide),
            List.append_nil]
        · obtain ⟨i, -, leads⟩ := Entry.exists_leads_of_mem_stopsOf fail
          have here := filter_path_entriesProblems (path.forks_child .onFail) fail
          rw [filter_path_gate isGate leads.ne, here, filter_path_beside leads (by decide),
            List.nil_append]
      · cases below

/-- The problems at the path of a stop are those that are raised there. -/
theorem filter_path_entriesProblems : ∀ {entries : List Entry} {path : Nat → NodePath}
    {index : Nat} {earlier : List Visit} {stop : Stop}, NodePath.Forks path →
      stop ∈ Entry.stopsOf path index earlier entries →
        (v.entriesProblems path index earlier entries).filter (·.1 = stop.path) =
          (v.raised stop).map fun p => (stop.path, p)
  | [], _, _, _, _, _, mem => (List.not_mem_nil mem).elim
  | entry :: rest, path, index, earlier, stop, forks, mem => by
    rw [entriesProblems, List.filter_append]
    rcases List.mem_append.1 mem with here | later
    · have leads := Entry.leads_of_mem_stops here
      have others : (v.entriesProblems path (index + 1) (earlier ++ entry.visits (path index))
          rest).filter (·.1 = stop.path) = [] := by
        refine List.filter_eq_nil_iff.2 fun x mem => ?_
        obtain ⟨i, after, leads'⟩ := exists_leads_of_mem_entriesProblems mem
        rw [decide_eq_true_iff]
        intro same
        rw [same] at leads'
        exact Nat.ne_of_lt after (forks leads leads')
      rw [filter_path_entryProblems here, others, List.append_nil]
    · obtain ⟨i, after, leads⟩ := Entry.exists_leads_of_mem_stopsOf later
      have others : (v.entryProblems (path index) earlier entry).filter (·.1 = stop.path) = [] := by
        refine List.filter_eq_nil_iff.2 fun x mem => ?_
        have leads' := leads_of_mem_entryProblems mem
        rw [decide_eq_true_iff]
        intro same
        rw [same] at leads'
        exact Nat.ne_of_lt after (forks leads' leads)
      rw [others, filter_path_entriesProblems forks later, List.nil_append]

end

/-! ## Findings -/

theorem mem_findings_validate {d : Document} {f : Finding} :
    f ∈ (v.validate d).findings ↔ f ∈ v.findings d := by
  show f ∈ (v.findings d).filter _ ++ (v.findings d).filter _ ↔ _
  rw [List.mem_append, List.mem_filter, List.mem_filter, ← and_or_left, decide_eq_true_iff,
    decide_eq_true_iff]
  exact and_iff_left (Decidable.em _)

/-- The finding about the whole document is at the path of no entry. -/
theorem text_ne_documentPath (path : NodePath) : path.text ≠ documentPath := by
  intro same
  have chars := congrArg String.toList same
  rw [NodePath.toList_text] at chars
  exact absurd (List.cons.inj chars).1 (by decide)

/-- The findings at the path of a stop are the problems that are raised there. -/
theorem filter_path_findings {d : Document} {stop : Stop} (mem : stop ∈ d.stops) :
    (v.findings d).filter (·.path == stop.path.text) =
      (v.raised stop).map fun p => p.finding stop.path := by
  have notLoaded : (if v.registry.isReady then [] else [notLoaded]).filter
      (·.path == stop.path.text) = [] := by
    split
    · rfl
    · refine List.filter_eq_nil_iff.2 fun f mem same => ?_
      rw [List.mem_singleton.1 mem] at same
      exact text_ne_documentPath stop.path (eq_of_beq same).symm
  have same : ((fun f : Finding => f.path == stop.path.text) ∘ fun x : Located => x.2.finding x.1) =
      fun x => decide (x.1 = stop.path) := by
    funext x
    rw [Bool.eq_iff_iff, decide_eq_true_iff, ← NodePath.text_injective.eq_iff]
    exact beq_iff_eq
  rw [findings, List.filter_append, notLoaded, List.nil_append, List.filter_map, same, problems,
    filter_path_entriesProblems NodePath.forks_top mem, List.map_map]
  rfl

/-- A finding that is not about the whole document was raised at a stop. -/
theorem exists_stop_of_mem_findings {d : Document} {f : Finding} (mem : f ∈ v.findings d)
    (other : f.path ≠ documentPath) :
    ∃ stop ∈ d.stops, ∃ p ∈ v.raised stop, f = p.finding stop.path := by
  rcases List.mem_append.1 mem with whole | found
  · split at whole
    · cases whole
    · rw [List.mem_singleton.1 whole] at other
      exact absurd rfl other
  · obtain ⟨⟨path, p⟩, raised, rfl⟩ := List.mem_map.1 found
    obtain ⟨stop, at_stop, rfl, own⟩ := exists_stop_of_mem_entriesProblems raised
    exact ⟨stop, at_stop, p, own, rfl⟩

/-- Findings name what they are about.  A finding that is not about the whole document has the path
of a stop.  The document can be walked along it, and there stands the node, or the entry that cannot
be read, that the finding was raised for.  Stops have different paths, so the errors at the path of
one are those raised for it. -/
theorem findings_faithful (v : Validator) (d : Document) :
    (∀ f ∈ (v.validate d).findings, f.path ≠ documentPath → ∃ stop ∈ d.stops,
      f.path = stop.path.text ∧
      (∃ place, d.walk? stop.path = some place ∧ place.entry = stop.entry) ∧
      ∃ p ∈ v.raised stop, f = p.finding stop.path) ∧
    (d.stops.map (·.path.text)).Nodup ∧
    ∀ stop ∈ d.stops, (v.validate d).errorsAt stop.path.text =
      ((v.raised stop).map (·.finding stop.path)).filter (·.severity = .error) := by
  refine ⟨fun f mem other => ?named, d.nodup_texts_stops, fun stop mem => ?errors⟩
  case named =>
    obtain ⟨stop, at_stop, p, raised, rfl⟩ :=
      exists_stop_of_mem_findings (mem_findings_validate.1 mem) other
    exact ⟨stop, at_stop, rfl, Document.walk?_of_mem_stops at_stop, p, raised, rfl⟩
  case errors =>
    show ((v.findings d).filter _).filter _ = _
    rw [List.filter_comm, filter_path_findings mem]

/-- A gate with a word among the entries on fail. -/
def garbled : Document := ⟨[
  ⟨none, some "chance", (∅ : Dict Value).insert Branch.onFail.key (.array [.text "soon"]), 0, none,
    100⟩]⟩

theorem findings_faithful_garbled : ∃ f ∈ (lenient.validate garbled).findings,
    f.path = "Effect[0].onFail[0]" ∧ ∃ stop ∈ garbled.stops, f.path = stop.path.text ∧
      (∃ place, garbled.walk? stop.path = some place ∧ place.entry = stop.entry) ∧
      f ∈ (lenient.validate garbled).errorsAt stop.path.text := by
  have found : ∃ f ∈ (lenient.validate garbled).findings,
      f.path = "Effect[0].onFail[0]" ∧ f.severity = .error := by decide +kernel
  obtain ⟨f, mem, path_eq, severity⟩ := found
  obtain ⟨named, -, errors⟩ := findings_faithful lenient garbled
  obtain ⟨stop, at_stop, text_eq, place, p, raised, rfl⟩ := named f mem (by rw [path_eq]; decide)
  refine ⟨_, mem, path_eq, stop, at_stop, text_eq, place, ?_⟩
  rw [errors stop at_stop]
  exact List.mem_filter.2 ⟨List.mem_map.2 ⟨p, raised, rfl⟩, decide_eq_true severity⟩

end Validator

end EffectFlow
