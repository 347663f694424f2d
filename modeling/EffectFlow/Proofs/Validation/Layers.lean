import EffectFlow.Proofs.Validation.Fit

/-!
# Layers of checks do not interfere

The three layers of a validator share one walk over the document and one list of findings.  What an
observer of some layers sees depends only on what these layers read: the schema layer reads the
registry, the legacy layer reads its flag, and the structural layer reads neither.

* `Validator.SameOn` relates two validators that an observer of some layers cannot tell apart.
* `Validator.filter_entryProblems` is the step: the problems of an entry that such an observer sees
  are the same.  `Validator.filter_findings` is the run over a document.
* `Validator.layers_validate` says it of reports, one layer after the other.
-/

namespace EffectFlow

/-- What an observer of some layers sees of a report: the errors and the warnings. -/
def Report.view (r : Report) (seen : CheckLayer → Bool) : List Finding × List Finding :=
  (r.errors.filter (seen ·.layer), r.warnings.filter (seen ·.layer))

namespace Problem

/-- The problem is about the fields of a node, and not about what stands in its branches or its
parameters. -/
def OfFields : Problem → Prop
  | malformedBranch _ _ | unreadableEntry _ | unknownEffect _ | missingParameter _ _
  | invalidParameter _ _ | danglingReference _ _ _ _ | legacyParameter _ _ => False
  | _ => True

theorem OfFields.layer {p : Problem} (ofFields : p.OfFields) : p.layer = .structural := by
  cases p <;> first | rfl | exact ofFields.elim

end Problem

namespace Validator

/-- The validators agree in what the observed layers read. -/
structure SameOn (seen : CheckLayer → Bool) (v v' : Validator) : Prop where
  registry : seen .schema = true → v.registry.isReady = v'.registry.isReady ∧
    ∀ w, schemaProblems v.registry w = schemaProblems v'.registry w
  legacyChecks : seen .legacy = true → v.config.legacyChecks = v'.config.legacyChecks

/-! ## The parts of a node -/

section Parts

variable {seen : CheckLayer → Bool} {v v' : Validator}

/-- A layer that is not observed shows nothing. -/
theorem filter_eq_nil_of_layer {problems : List Problem} {layer : CheckLayer}
    (all : ∀ p ∈ problems, p.layer = layer) (hidden : seen layer = false) :
    problems.filter (seen ·.layer) = [] := by
  refine List.filter_eq_nil_iff.2 fun p mem => ?_
  rw [all p mem, hidden]
  exact Bool.false_ne_true

/-- The same problems with a schema are seen. -/
theorem SameOn.filter_schemaProblems (same : SameOn seen v v') (w : StoredNode) :
    (schemaProblems v.registry w).filter (seen ·.layer) =
      (schemaProblems v'.registry w).filter (seen ·.layer) := by
  cases observed : seen .schema with
  | true => rw [(same.registry observed).2]
  | false =>
    rw [filter_eq_nil_of_layer (fun p mem => (of_mem_schemaProblems mem).1) observed,
      filter_eq_nil_of_layer (fun p mem => (of_mem_schemaProblems mem).1) observed]

/-- Problems of one path are kept as the problems are. -/
theorem filter_located (keep : Problem → Bool) (path : NodePath) (problems : List Problem) :
    (problems.map fun p => (path, p)).filter (keep ·.2) =
      (problems.filter keep).map fun p => (path, p) :=
  List.filter_map

/-- The same problems with the legacy table are seen. -/
theorem SameOn.filter_legacyProblems (same : SameOn seen v v') (path : NodePath) (w : StoredNode) :
    (if v.config.legacyChecks then w.legacyProblems.map fun p => (path, p) else []).filter
        (seen ·.2.layer) =
      (if v'.config.legacyChecks then w.legacyProblems.map fun p => (path, p) else []).filter
        (seen ·.2.layer) := by
  cases observed : seen .legacy with
  | true => rw [same.legacyChecks observed]
  | false =>
    have hidden : w.legacyProblems.filter (seen ·.layer) = [] :=
      filter_eq_nil_of_layer (fun p mem => (of_mem_legacyProblems mem).1) observed
    split <;> split <;>
      simp only [filter_located (seen ·.layer), hidden, List.map_nil, List.filter_nil]

/-! ## The walk -/

mutual

/-- The problems of an entry that are seen. -/
theorem SameOn.filter_entryProblems (same : SameOn seen v v') :
    ∀ (entry : Entry) (path : NodePath) (earlier : List Visit),
      (v.entryProblems path earlier entry).filter (seen ·.2.layer) =
        (v'.entryProblems path earlier entry).filter (seen ·.2.layer)
  | .unreadable _, _, _ => rfl
  | .node w onPass onFail, path, earlier => by
    have pass := same.filter_entriesProblems onPass (path.child .onPass) 0
    have fail := same.filter_entriesProblems onFail (path.child .onFail) 0
    have legacy := same.filter_legacyProblems path w
    rw [entryProblems, entryProblems]
    cases isGate : w.gateName.isSome with
    | true =>
      simp only [if_true, List.filter_append, pass, fail, filter_located (seen ·.layer), legacy]
    | false =>
      simp only [Bool.false_eq_true, if_false, List.filter_append, filter_located (seen ·.layer),
        legacy, same.filter_schemaProblems w]

theorem SameOn.filter_entriesProblems (same : SameOn seen v v') :
    ∀ (entries : List Entry) (path : Nat → NodePath) (index : Nat) (earlier : List Visit),
      (v.entriesProblems path index earlier entries).filter (seen ·.2.layer) =
        (v'.entriesProblems path index earlier entries).filter (seen ·.2.layer)
  | [], _, _, _ => rfl
  | entry :: rest, path, index, earlier => by
    rw [entriesProblems, entriesProblems, List.filter_append, List.filter_append,
      same.filter_entryProblems entry, same.filter_entriesProblems rest]

end

/-- The findings of a document that are seen. -/
theorem SameOn.filter_findings (same : SameOn seen v v') (d : Document) :
    (v.findings d).filter (seen ·.layer) = (v'.findings d).filter (seen ·.layer) := by
  have walk : ((v.problems d).map fun x => x.2.finding x.1).filter (seen ·.layer) =
      ((v'.problems d).map fun x => x.2.finding x.1).filter (seen ·.layer) := by
    rw [List.filter_map, List.filter_map]
    exact congrArg _ (same.filter_entriesProblems d.entries .top 0 [])
  have first : (if v.registry.isReady then [] else [notLoaded]).filter (seen ·.layer) =
      (if v'.registry.isReady then [] else [notLoaded]).filter (seen ·.layer) := by
    cases observed : seen .schema with
    | true => rw [(same.registry observed).1]
    | false =>
      have hidden : [notLoaded].filter (seen ·.layer) = [] := by
        rw [List.filter_cons_of_neg]
        · rfl
        · rw [show notLoaded.layer = .schema from rfl, observed]
          exact Bool.false_ne_true
      split <;> split <;> simp only [hidden, List.filter_nil]
  rw [findings, findings, List.filter_append, List.filter_append, first]
  exact congrArg _ walk

end Parts

/-! ## Problems of the legacy table -/

/-- Problems with the legacy table are warnings. -/
theorem severity_of_layer {p : Problem} (legacy : p.layer = .legacy) : p.severity = .warning := by
  cases p
  case legacyParameter => rfl
  all_goals cases legacy

theorem ofFields_of_mem_commonProblems {w : StoredNode} {earlier : List Visit} :
    ∀ p ∈ w.commonProblems earlier, p.OfFields := by
  intro p mem
  rw [StoredNode.commonProblems, List.mem_append, List.mem_append, Option.mem_toList,
    Option.mem_toList] at mem
  rcases mem with (kind | chance) | order
  · rw [StoredNode.kindProblem?] at kind
    repeat' split at kind
    all_goals cases kind
    all_goals trivial
  · split at chance
    · cases chance
    · rw [List.mem_singleton.1 chance]
      trivial
  · rw [StoredNode.orderProblem?] at order
    repeat' split at order
    all_goals cases order
    all_goals trivial

theorem ofFields_of_mem_gateProblems {w : StoredNode} : ∀ p ∈ w.gateProblems, p.OfFields := by
  intro p mem
  rw [StoredNode.gateProblems, List.mem_append] at mem
  rcases mem with mem | mem
  all_goals
    split at mem
    · rw [List.mem_singleton.1 mem]
      trivial
    · cases mem

theorem layer_of_mem_branchProblem? {w : StoredNode} {branch : Branch} :
    ∀ p ∈ (w.branchProblem? branch).toList, p.layer = .structural := by
  intro p mem
  rw [Option.mem_toList, StoredNode.branchProblem?] at mem
  split at mem
  · cases mem
    rfl
  · cases mem

theorem ofFields_of_mem_effectProblems {w : StoredNode} : ∀ p ∈ w.effectProblems, p.OfFields := by
  intro p mem
  rcases StoredNode.of_mem_effectProblems mem with ⟨name, rfl⟩ | ⟨branch, rfl⟩
  · trivial
  · trivial

theorem layer_of_mem_commonProblems {w : StoredNode} {earlier : List Visit} :
    ∀ p ∈ w.commonProblems earlier, p.layer = .structural := fun p mem =>
  (ofFields_of_mem_commonProblems p mem).layer

theorem layer_of_mem_gateProblems {w : StoredNode} :
    ∀ p ∈ w.gateProblems, p.layer = .structural := fun p mem =>
  (ofFields_of_mem_gateProblems p mem).layer

theorem layer_of_mem_effectProblems {w : StoredNode} :
    ∀ p ∈ w.effectProblems, p.layer = .structural := fun p mem =>
  (ofFields_of_mem_effectProblems p mem).layer

/-- None of the problems is of the legacy table. -/
def Modern (located : List Located) : Prop := ∀ x ∈ located, x.2.layer ≠ .legacy

theorem modern_append {front back : List Located} (first : Modern front) (second : Modern back) :
    Modern (front ++ back) :=
  List.forall_mem_append.2 ⟨first, second⟩

theorem modern_map {path : NodePath} {problems : List Problem} {layer : CheckLayer}
    (all : ∀ p ∈ problems, p.layer = layer) (other : layer ≠ .legacy) :
    Modern (problems.map fun p => (path, p)) :=
  List.forall_mem_map.2 fun p mem => (all p mem).trans_ne other

section Off

variable {v : Validator}

mutual

/-- With the legacy checks off, an entry has no problem with the legacy table. -/
theorem modern_entryProblems (off : v.config.legacyChecks = false) :
    ∀ (entry : Entry) (path : NodePath) (earlier : List Visit),
      Modern (v.entryProblems path earlier entry)
  | .unreadable _, _, _ => List.forall_mem_singleton.2 CheckLayer.noConfusion
  | .node w onPass onFail, path, earlier => by
    have structural : CheckLayer.structural ≠ .legacy := by decide
    have branch (b : Branch) : Modern ((w.branchProblem? b).toList.map fun p => (path, p)) :=
      modern_map layer_of_mem_branchProblem? structural
    rw [entryProblems, off]
    refine modern_append (modern_append (modern_map layer_of_mem_commonProblems structural) ?_)
      (List.forall_mem_nil _)
    split
    · refine modern_append (modern_append (modern_append (modern_append ?gate (branch _)) ?pass)
        (branch _)) ?fail
      case gate => exact modern_map layer_of_mem_gateProblems structural
      case pass => exact modern_entriesProblems off onPass _ _ _
      case fail => exact modern_entriesProblems off onFail _ _ _
    · exact modern_append (modern_map layer_of_mem_effectProblems structural)
        (modern_map (fun p mem => (of_mem_schemaProblems mem).1) (by decide))

theorem modern_entriesProblems (off : v.config.legacyChecks = false) :
    ∀ (entries : List Entry) (path : Nat → NodePath) (index : Nat) (earlier : List Visit),
      Modern (v.entriesProblems path index earlier entries)
  | [], _, _, _ => List.forall_mem_nil _
  | entry :: rest, _, _, _ =>
    modern_append (modern_entryProblems off entry _ _) (modern_entriesProblems off rest _ _ _)

end

end Off

/-! ## Reports -/

variable {seen : CheckLayer → Bool} {v v' : Validator}

/-- The report shows an observer what the findings show. -/
theorem view_validate (v : Validator) (d : Document) (seen : CheckLayer → Bool) :
    (v.validate d).view seen =
      (((v.findings d).filter (seen ·.layer)).filter (·.severity = .error),
        ((v.findings d).filter (seen ·.layer)).filter (·.severity ≠ .error)) :=
  Prod.ext (List.filter_comm _ _ _) (List.filter_comm _ _ _)

/-- Validators that agree in what the observed layers read show the observer the same report. -/
theorem SameOn.view_validate (same : SameOn seen v v') (d : Document) :
    (v.validate d).view seen = (v'.validate d).view seen := by
  rw [Validator.view_validate, Validator.view_validate, same.filter_findings]

/-- A finding of the legacy table is a warning, and the table is consulted. -/
theorem of_mem_findings_legacy {d : Document} {f : Finding} (mem : f ∈ v.findings d)
    (legacy : f.layer = .legacy) : f.severity = .warning ∧ v.config.legacyChecks = true := by
  rw [findings, List.mem_append] at mem
  rcases mem with first | found
  · split at first
    · cases first
    · rw [List.mem_singleton.1 first] at legacy
      cases legacy
  · obtain ⟨x, mem, rfl⟩ := List.mem_map.1 found
    refine ⟨severity_of_layer legacy, ?_⟩
    by_contra off
    rw [Bool.not_eq_true] at off
    exact modern_entriesProblems off d.entries _ _ _ x mem legacy

/-- Without the legacy table, an observer of the other layers sees the whole report. -/
theorem view_validate_of_off (off : v.config.legacyChecks = false) (d : Document) :
    (v.validate d).view (· ≠ .legacy) = ((v.validate d).errors, (v.validate d).warnings) := by
  have all (keep : Finding → Bool) :
      ((v.findings d).filter keep).filter (decide <| ·.layer ≠ .legacy) =
        (v.findings d).filter keep := by
    refine List.filter_eq_self.2 fun f mem => decide_eq_true fun legacy => ?_
    have on := (of_mem_findings_legacy (List.mem_of_mem_filter mem) legacy).2
    exact Bool.false_ne_true (off.symm.trans on)
  exact Prod.ext (all _) (all _)

/-- No layer of a report depends on what another layer reads: the structural findings depend on the
document only, those of the registry on the registry too, and those of the legacy table on its flag.
The latter are warnings, and there are none while the flag is off.  So to turn the flag on changes
neither the errors nor the verdict, and adds warnings of the legacy table only. -/
theorem layers_validate (v v' : Validator) (d : Document) :
    (v.validate d).view (· = .structural) = (v'.validate d).view (· = .structural) ∧
      (v.registry = v'.registry →
        (v.validate d).view (· = .schema) = (v'.validate d).view (· = .schema)) ∧
      (v.config.legacyChecks = v'.config.legacyChecks →
        (v.validate d).view (· = .legacy) = (v'.validate d).view (· = .legacy)) ∧
      (∀ f ∈ (v.validate d).errors, f.layer ≠ .legacy) ∧
      (v.config.legacyChecks = false → ∀ f ∈ (v.validate d).findings, f.layer ≠ .legacy) ∧
      (v.registry = v'.registry → v.config.legacyChecks = true →
        v'.config.legacyChecks = false →
          (v.validate d).valid = (v'.validate d).valid ∧
            (v.validate d).errors = (v'.validate d).errors ∧
            (v.validate d).warnings.filter (·.layer ≠ .legacy) = (v'.validate d).warnings) := by
  have noError : ∀ w : Validator, ∀ f ∈ (w.validate d).errors, f.layer ≠ .legacy := by
    intro w f mem legacy
    obtain ⟨found, error⟩ := List.mem_filter.1 (mem : f ∈ (w.findings d).filter _)
    rw [(of_mem_findings_legacy found legacy).1] at error
    cases error
  have alike (registry : v.registry = v'.registry) :
      v.registry.isReady = v'.registry.isReady ∧
        ∀ w, schemaProblems v.registry w = schemaProblems v'.registry w := by
    rw [registry]
    exact ⟨rfl, fun _ => rfl⟩
  refine ⟨?structural, fun registry => ?schema, fun flag => ?legacy, noError v, ?off,
    fun registry _ off => ?switch⟩
  case structural =>
    exact SameOn.view_validate ⟨(absurd · (by decide)), (absurd · (by decide))⟩ d
  case schema => exact SameOn.view_validate ⟨fun _ => alike registry, (absurd · (by decide))⟩ d
  case legacy => exact SameOn.view_validate ⟨(absurd · (by decide)), fun _ => flag⟩ d
  case off =>
    intro off f mem legacy
    have found : f ∈ v.findings d := by
      rcases List.mem_append.1 mem with mem | mem <;> exact List.mem_of_mem_filter mem
    exact Bool.false_ne_true (off.symm.trans (of_mem_findings_legacy found legacy).2)
  case switch =>
    have same : SameOn (· ≠ .legacy) v v' := ⟨fun _ => alike registry, (absurd · (by decide))⟩
    have views := (same.view_validate d).trans (view_validate_of_off off d)
    have all : (v.validate d).errors.filter (·.layer ≠ .legacy) = (v.validate d).errors :=
      List.filter_eq_self.2 fun f mem => decide_eq_true (noError v f mem)
    have errors := all.symm.trans (congrArg Prod.fst views)
    exact ⟨congrArg List.isEmpty errors, errors, congrArg Prod.snd views⟩

/-- A teleport of the legacy table, without a room and with a negative order. -/
def strayTeleport : Document := ⟨[⟨some 104, none, ∅, -1, none, 100⟩]⟩

/-- A validator that consults a registry without the teleport, but not the legacy table. -/
def lenient : Validator := { registry := Compiler.twoEffects.registry }

/-- A validator that consults both. -/
def strict : Validator :=
  { lenient with config := { Config.standard with legacyChecks := true } }

theorem layers_validate_strayTeleport :
    ((strict.validate strayTeleport).errors.length = 1 ∧
      (strict.validate strayTeleport).warnings.length = 2) ∧
    (strict.validate strayTeleport).view (· = .structural) =
      (validate { strict with registry := .empty } strayTeleport).view (· = .structural) ∧
    (strict.validate strayTeleport).view (· = .legacy) =
      (validate { strict with registry := .empty } strayTeleport).view (· = .legacy) ∧
    (strict.validate strayTeleport).view (· = .schema) =
      (lenient.validate strayTeleport).view (· = .schema) ∧
    (∀ f ∈ (lenient.validate strayTeleport).findings, f.layer ≠ .legacy) ∧
    (strict.validate strayTeleport).errors = (lenient.validate strayTeleport).errors ∧
    (strict.validate strayTeleport).warnings.filter (·.layer ≠ .legacy) =
      (lenient.validate strayTeleport).warnings := by
  obtain ⟨structural, -, legacy, -⟩ :=
    layers_validate strict { strict with registry := .empty } strayTeleport
  obtain ⟨-, schema, -, -, -, switch⟩ := layers_validate strict lenient strayTeleport
  obtain ⟨-, -, -, -, off, -⟩ := layers_validate lenient strict strayTeleport
  exact ⟨by decide, structural, legacy rfl, schema rfl, off rfl, (switch rfl rfl rfl).2⟩

end Validator

end EffectFlow
