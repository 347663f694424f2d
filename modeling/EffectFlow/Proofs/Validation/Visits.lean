import EffectFlow.Proofs.Json.Numerals
import EffectFlow.Validation.Validator
import Mathlib.Data.List.Nodup

/-!
# Stops of a validator

A validator stops at nodes, each with its order and its path, and at entries that cannot be read.
`Document.stops` lists the stops, each with the visits before it.  The stops at nodes are the visits
of a document, in order (`Document.filterMap_visit?_stops`).

At a stop stands the entry at its path (`Entry.follow?_of_mem_stops`).  No path has two stops: those
from an entry are at its path or below it, and the entries of one list lead to different places
(`Entry.nodup_stopsOf`).  A finding names its entry by the text of a path.  The text tells paths
apart, since the number of an index ends at its bracket and the branches have different names
(`NodePath.text_injective`).  So no finding is about two stops (`Document.nodup_texts_stops`).
-/

namespace EffectFlow

namespace NodePath

/-! ## Texts -/

/-- An index ends at its bracket. -/
theorem index_inj {m n : Nat} {text text' : List Char}
    (same : decimalDigits m ++ ']' :: text = decimalDigits n ++ ']' :: text') :
    m = n ∧ text = text' := by
  have bracket (rest : List Char) : Json.Stops (']' :: rest) := Json.stops_cons (by decide)
  have first := Json.digits?_append (Json.digits?_decimalDigits m) (bracket text)
  have second := Json.digits?_append (Json.digits?_decimalDigits n) (bracket text')
  rw [same, second] at first
  have both := Prod.mk.inj (Option.some.inj first)
  have number := congrArg (Numeral.ofDigits 0) both.1
  rw [Json.ofDigits_decimalDigits, Json.ofDigits_decimalDigits] at number
  exact ⟨number.symm, (List.cons.inj both.2).2.symm⟩

theorem toList_stepText (branch : Branch) (i : Nat) :
    (stepText (branch, i)).toList =
      '.' :: (branch.key.toList ++ '[' :: (decimalDigits i ++ [']'])) := by
  simp [stepText, decimalDigits, toString]

theorem toList_text (path : NodePath) :
    path.text.toList = "Effect[".toList ++ (decimalDigits path.index ++
      ']' :: path.steps.flatMap fun step => (stepText step).toList) := by
  simp [text, decimalDigits, toString, List.flatMap_map]

/-- Steps of the same text begin with the same branch. -/
theorem branch_inj {branch branch' : Branch} {text text' : List Char}
    (same : branch.key.toList ++ '[' :: text = branch'.key.toList ++ '[' :: text') :
    branch = branch' ∧ text = text' := by
  cases branch <;> cases branch' <;> simp [Branch.key] at same ⊢ <;> exact same

theorem steps_inj {steps steps' : List (Branch × Nat)}
    (same : steps.flatMap (fun step => (stepText step).toList) =
      steps'.flatMap fun step => (stepText step).toList) : steps = steps' := by
  induction steps generalizing steps' with
  | nil =>
    cases steps' with
    | nil => rfl
    | cons step rest =>
      rw [List.flatMap_cons, toList_stepText] at same
      cases same
  | cons step rest ih =>
    cases steps' with
    | nil =>
      rw [List.flatMap_cons, toList_stepText] at same
      cases same
    | cons step' rest' =>
      obtain ⟨branch, i⟩ := step
      obtain ⟨branch', i'⟩ := step'
      rw [List.flatMap_cons, List.flatMap_cons, toList_stepText, toList_stepText] at same
      simp only [List.cons_append, List.append_assoc, List.nil_append, List.cons.injEq,
        true_and] at same
      obtain ⟨rfl, indexed⟩ := branch_inj same
      obtain ⟨rfl, later⟩ := index_inj indexed
      rw [ih later]

/-- The text of a path tells it from all others. -/
theorem text_injective : Function.Injective text := by
  intro path path' same
  have chars := congrArg String.toList same
  rw [toList_text, toList_text] at chars
  obtain ⟨index, later⟩ := index_inj (List.append_cancel_left chars)
  obtain ⟨i, steps⟩ := path
  obtain ⟨i', steps'⟩ := path'
  rw [NodePath.mk.injEq]
  exact ⟨index, steps_inj later⟩

/-! ## Ways -/

/-- The second path is the first or goes on from it. -/
def Leads (path target : NodePath) : Prop :=
  ∃ steps, target = ⟨path.index, path.steps ++ steps⟩

theorem leads_child_iff {path target : NodePath} {branch : Branch} {i : Nat} :
    (path.child branch i).Leads target ↔
      ∃ steps, target = ⟨path.index, path.steps ++ (branch, i) :: steps⟩ := by
  simp only [Leads, child, List.append_assoc, List.cons_append, List.nil_append]

/-- No path leads back from below. -/
theorem not_leads_child_self (path : NodePath) (branch : Branch) (i : Nat) :
    ¬ (path.child branch i).Leads path := by
  intro leads
  obtain ⟨steps, same⟩ := leads_child_iff.1 leads
  have length := congrArg (fun p : NodePath => p.steps.length) same
  simp at length

theorem Leads.ne {path target : NodePath} {branch : Branch} {i : Nat}
    (leads : (path.child branch i).Leads target) : path ≠ target := by
  rintro rfl
  exact not_leads_child_self path branch i leads

/-- Different branches and different indices lead to different places. -/
theorem child_inj {path target : NodePath} {branch branch' : Branch} {i i' : Nat}
    (first : (path.child branch i).Leads target) (second : (path.child branch' i').Leads target) :
    branch = branch' ∧ i = i' := by
  obtain ⟨steps, rfl⟩ := leads_child_iff.1 first
  obtain ⟨steps', same⟩ := leads_child_iff.1 second
  have step := List.append_cancel_left (NodePath.mk.inj same).2
  exact Prod.mk.inj (List.cons.inj step).1

/-- Different indices lead to different places. -/
def Forks (path : Nat → NodePath) : Prop :=
  ∀ ⦃i i' target⦄, (path i).Leads target → (path i').Leads target → i = i'

theorem forks_child (path : NodePath) (branch : Branch) : Forks (path.child branch) :=
  fun _ _ _ first second => (child_inj first second).2

theorem forks_top : Forks top := by
  rintro i i' target ⟨steps, rfl⟩ ⟨steps', same⟩
  exact (NodePath.mk.inj same).1

end NodePath

/-- An entry that a validator visits. -/
structure Stop where
  /-- The path of the entry. -/
  path : NodePath
  /-- The visits before. -/
  earlier : List Visit
  /-- The entry. -/
  entry : Entry

/-- The visit of a stop at a node. -/
def Stop.visit? (stop : Stop) : Option Visit :=
  match stop.entry with
  | .node w _ _ => some (w.order, stop.path)
  | .unreadable _ => none

/-! ## Stops -/

mutual

/-- The stops from an entry, given its path and the earlier visits. -/
def Entry.stops (path : NodePath) (earlier : List Visit) : Entry → List Stop
  | .unreadable error => [⟨path, earlier, .unreadable error⟩]
  | .node w onPass onFail =>
    ⟨path, earlier, .node w onPass onFail⟩ ::
      if w.gateName.isSome then
        let passEarlier := earlier ++ [(w.order, path)]
        let failEarlier := passEarlier ++ Entry.visitsOf (path.child .onPass) 0 onPass
        Entry.stopsOf (path.child .onPass) 0 passEarlier onPass ++
          Entry.stopsOf (path.child .onFail) 0 failEarlier onFail
      else []
termination_by structural entry => entry

/-- The stops from a list of entries, given their paths by index. -/
def Entry.stopsOf (path : Nat → NodePath) (index : Nat) (earlier : List Visit) :
    List Entry → List Stop
  | [] => []
  | entry :: rest =>
    entry.stops (path index) earlier ++
      Entry.stopsOf path (index + 1) (earlier ++ entry.visits (path index)) rest
termination_by structural entries => entries

end

/-- The stops of a validator in a document. -/
def Document.stops (d : Document) : List Stop := Entry.stopsOf .top 0 [] d.entries

namespace Entry

open NodePath

mutual

/-- The stops of an entry with an order are its visits. -/
theorem filterMap_visit?_stops : ∀ (entry : Entry) (path : NodePath) (earlier : List Visit),
    (entry.stops path earlier).filterMap Stop.visit? = entry.visits path
  | .unreadable _, _, _ => rfl
  | .node w onPass onFail, path, earlier => by
    have pass := filterMap_visit?_stopsOf onPass (path.child .onPass) 0
    have fail := filterMap_visit?_stopsOf onFail (path.child .onFail) 0
    have here : Stop.visit? ⟨path, earlier, .node w onPass onFail⟩ = some (w.order, path) := rfl
    rw [stops, visits, List.filterMap_cons_some here]
    split
    · rw [List.filterMap_append, pass, fail]
    · rfl

/-- The stops at nodes are the visits. -/
theorem filterMap_visit?_stopsOf : ∀ (entries : List Entry) (path : Nat → NodePath) (index : Nat)
    (earlier : List Visit),
      (stopsOf path index earlier entries).filterMap Stop.visit? = visitsOf path index entries
  | [], _, _, _ => rfl
  | entry :: rest, path, index, earlier => by
    rw [stopsOf, visitsOf, List.filterMap_append, filterMap_visit?_stops entry,
      filterMap_visit?_stopsOf rest]

end

mutual

/-- From an entry the path of a stop leads to the entry of the stop. -/
theorem follow?_of_mem_stops : ∀ {entry : Entry} {path : NodePath} {earlier : List Visit}
    {stop : Stop}, stop ∈ entry.stops path earlier →
      ∃ steps, stop.path = ⟨path.index, path.steps ++ steps⟩ ∧
        entry.follow? steps = some stop.entry
  | .unreadable _, path, earlier, stop, mem => by
    rw [List.mem_singleton.1 mem]
    exact ⟨[], by rw [List.append_nil], rfl⟩
  | .node w onPass onFail, path, earlier, stop, mem => by
    rw [stops, List.mem_cons] at mem
    rcases mem with rfl | below
    · exact ⟨[], by rw [List.append_nil], rfl⟩
    · split at below
      · rcases List.mem_append.1 below with pass | fail
        · obtain ⟨i, steps, next, found, path_eq, follow⟩ := follow?_of_mem_stopsOf pass
          refine ⟨(.onPass, i) :: steps, by simpa [NodePath.child] using path_eq, ?_⟩
          rw [follow?, entriesOf, found]
          exact follow
        · obtain ⟨i, steps, next, found, path_eq, follow⟩ := follow?_of_mem_stopsOf fail
          refine ⟨(.onFail, i) :: steps, by simpa [NodePath.child] using path_eq, ?_⟩
          rw [follow?, entriesOf, found]
          exact follow
      · cases below

/-- The stop is reached from one of the entries, by the steps of its path. -/
theorem follow?_of_mem_stopsOf : ∀ {entries : List Entry} {path : Nat → NodePath} {index : Nat}
    {earlier : List Visit} {stop : Stop}, stop ∈ stopsOf path index earlier entries →
      ∃ i steps entry, entries[i]? = some entry ∧
        stop.path = ⟨(path (index + i)).index, (path (index + i)).steps ++ steps⟩ ∧
          entry.follow? steps = some stop.entry
  | entry :: rest, path, index, earlier, stop, mem => by
    rcases List.mem_append.1 mem with here | later
    · obtain ⟨steps, path_eq, follow⟩ := follow?_of_mem_stops here
      exact ⟨0, steps, entry, rfl, path_eq, follow⟩
    · obtain ⟨i, steps, next, found, path_eq, follow⟩ := follow?_of_mem_stopsOf later
      refine ⟨i + 1, steps, next, found, ?_, follow⟩
      rwa [Nat.add_assoc, Nat.add_comm 1] at path_eq

end

/-- The stops from an entry are at its path or below it. -/
theorem leads_of_mem_stops {entry : Entry} {path : NodePath} {earlier : List Visit} {stop : Stop}
    (mem : stop ∈ entry.stops path earlier) : path.Leads stop.path := by
  obtain ⟨steps, path_eq, -⟩ := follow?_of_mem_stops mem
  exact ⟨steps, path_eq⟩

theorem exists_leads_of_mem_stopsOf {entries : List Entry} {path : Nat → NodePath} {index : Nat}
    {earlier : List Visit} {stop : Stop} (mem : stop ∈ stopsOf path index earlier entries) :
    ∃ i, index ≤ i ∧ (path i).Leads stop.path := by
  obtain ⟨i, steps, -, -, path_eq, -⟩ := follow?_of_mem_stopsOf mem
  exact ⟨index + i, Nat.le_add_right index i, steps, path_eq⟩

mutual

/-- The stops of an entry have distinct paths. -/
theorem nodup_stops : ∀ (entry : Entry) (path : NodePath) (earlier : List Visit),
    ((entry.stops path earlier).map Stop.path).Nodup
  | .unreadable _, _, _ => List.nodup_singleton _
  | .node w onPass onFail, path, earlier => by
    have pass := nodup_stopsOf onPass (path.forks_child .onPass) 0
    have fail := nodup_stopsOf onFail (path.forks_child .onFail) 0
    rw [stops, List.map_cons, List.nodup_cons]
    split
    · rw [List.map_append, List.mem_append, List.nodup_append]
      refine ⟨?_, pass _, fail _, ?_⟩
      · rintro (inPass | inFail)
        · obtain ⟨stop, mem, at_path⟩ := List.mem_map.1 inPass
          obtain ⟨i, -, leads⟩ := exists_leads_of_mem_stopsOf mem
          rw [at_path] at leads
          exact not_leads_child_self path .onPass i leads
        · obtain ⟨stop, mem, at_path⟩ := List.mem_map.1 inFail
          obtain ⟨i, -, leads⟩ := exists_leads_of_mem_stopsOf mem
          rw [at_path] at leads
          exact not_leads_child_self path .onFail i leads
      · rintro target inPass _ inFail rfl
        obtain ⟨stop, mem, rfl⟩ := List.mem_map.1 inPass
        obtain ⟨stop', mem', same⟩ := List.mem_map.1 inFail
        obtain ⟨i, -, leads⟩ := exists_leads_of_mem_stopsOf mem
        obtain ⟨i', -, leads'⟩ := exists_leads_of_mem_stopsOf mem'
        rw [same] at leads'
        cases (child_inj leads leads').1
    · exact ⟨List.not_mem_nil, List.nodup_nil⟩

/-- No path has two stops. -/
theorem nodup_stopsOf : ∀ (entries : List Entry) {path : Nat → NodePath}, Forks path →
    ∀ (index : Nat) (earlier : List Visit),
      ((stopsOf path index earlier entries).map Stop.path).Nodup
  | [], _, _, _, _ => List.nodup_nil
  | entry :: rest, path, forks, index, earlier => by
    rw [stopsOf, List.map_append, List.nodup_append]
    refine ⟨nodup_stops entry (path index) _, nodup_stopsOf rest forks (index + 1) _, ?_⟩
    rintro target here _ later rfl
    obtain ⟨stop, mem, rfl⟩ := List.mem_map.1 here
    obtain ⟨stop', mem', same⟩ := List.mem_map.1 later
    obtain ⟨i, after, leads⟩ := exists_leads_of_mem_stopsOf mem'
    rw [same] at leads
    exact Nat.ne_of_lt after (forks (leads_of_mem_stops mem) leads)

end

end Entry

namespace Document

variable {d : Document}

/-- At a stop stands the entry at its path. -/
theorem entry?_of_mem_stops {stop : Stop} (mem : stop ∈ d.stops) :
    Document.entry? d stop.path = some stop.entry := by
  obtain ⟨i, steps, top, found, path_eq, follow⟩ := Entry.follow?_of_mem_stopsOf mem
  rw [Nat.zero_add] at path_eq
  rw [path_eq]
  show (d.entries[i]?.bind fun top => top.follow? steps) = _
  rw [found]
  exact follow

/-- The path of a stop, as it is written, is that of no other stop. -/
theorem nodup_texts_stops (d : Document) : (d.stops.map (·.path.text)).Nodup := by
  have paths := Entry.nodup_stopsOf d.entries NodePath.forks_top 0 []
  have texts := paths.map NodePath.text_injective
  rwa [List.map_map] at texts

/-! ## Visits -/

/-- The visits are the stops at nodes. -/
theorem filterMap_visit?_stops (d : Document) : d.stops.filterMap Stop.visit? = d.visits :=
  Entry.filterMap_visit?_stopsOf d.entries .top 0 []

/-- What is visited is the node at its path, with its order. -/
theorem exists_entry?_of_mem_visits {order : Int64} {path : NodePath}
    (mem : (order, path) ∈ d.visits) :
    ∃ w onPass onFail, Document.entry? d path = some (.node w onPass onFail) ∧
      w.order = order := by
  rw [← filterMap_visit?_stops, List.mem_filterMap] at mem
  obtain ⟨stop, mem, visit⟩ := mem
  have found := entry?_of_mem_stops mem
  obtain ⟨_, _, entry⟩ := stop
  cases entry with
  | unreadable => cases visit
  | node w onPass onFail =>
    cases visit
    exact ⟨w, onPass, onFail, found, rfl⟩

/-- The path of a visit, as it is written, is that of no other visit. -/
theorem nodup_texts (d : Document) : (d.visits.map (·.2.text)).Nodup := by
  have text_eq {stop : Stop} {x : Visit} (visit : stop.visit? = some x) :
      x.2.text = stop.path.text := by
    obtain ⟨_, _, entry⟩ := stop
    cases entry <;> cases visit
    rfl
  have apart := List.pairwise_map.1 d.nodup_texts_stops
  rw [← filterMap_visit?_stops, List.Nodup, List.pairwise_map]
  refine apart.filterMap _ fun stop stop' different x visit x' visit' => ?_
  rw [text_eq visit, text_eq visit']
  exact different

end Document

end EffectFlow
