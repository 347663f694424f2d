import EffectFlow.Config
import EffectFlow.Pipeline.Lift
import EffectFlow.Validation.Problem

/-!
# Validating documents

A validator visits every node of a document, each before those of its branches, and collects its
problems.  It works on the loose form of the nodes, so a document that has no types is still
reported on.  Branches are visited on gates only.

* `Entry.visits` lists the visited nodes with their orders.  An order is a duplicate if a node that
  was visited earlier has it, and then the first of these is named.
* `Validator.entryProblems` collects the problems of an entry, given the earlier visits.  The
  problems of a node come in this order: its kind, its chance, its order, those of a gate and its
  branches or those of an effect, and the legacy table.
-/

namespace EffectFlow

open Json (Value)

/-- What documents are validated with. -/
structure Validator where
  /-- The registry. -/
  registry : Registry
  /-- The settings. -/
  config : Config := .standard

/-- A node that was visited: its order and its path. -/
abbrev Visit := Int64 × NodePath

/-- A problem and the path of its node or entry. -/
abbrev Located := NodePath × Problem

/-! ## Visits -/

mutual

/-- The nodes that are visited from an entry. -/
def Entry.visits (path : NodePath) : Entry → List Visit
  | .unreadable _ => []
  | .node w onPass onFail =>
    (w.order, path) ::
      if w.gateName.isSome then
        Entry.visitsOf (path.child .onPass) 0 onPass ++ Entry.visitsOf (path.child .onFail) 0 onFail
      else []
termination_by structural entry => entry

/-- The nodes that are visited from a list of entries, given their paths by index. -/
def Entry.visitsOf (path : Nat → NodePath) (index : Nat) : List Entry → List Visit
  | [] => []
  | entry :: rest => entry.visits (path index) ++ Entry.visitsOf path (index + 1) rest
termination_by structural entries => entries

end

/-- The nodes that are visited in a document. -/
def Document.visits (d : Document) : List Visit := Entry.visitsOf .top 0 d.entries

namespace StoredNode

/-! ## The structure of a node -/

/-- Is the chance a percentage? -/
def hasPercentage (w : StoredNode) : Bool := 0 ≤ w.chance.toInt && w.chance.toInt ≤ 100

/-- The problem of the kind of a node. -/
def kindProblem? (w : StoredNode) : Option Problem :=
  match w.effectId, w.gateName with
  | some _, some _ => some .bothKinds
  | none, none => some .noKind
  | some id, none =>
    if id.toInt = 0 then some .placeholder
    else if id.toInt < 0 then some (.invalidId id)
    else none
  | none, some name => if (GateKind.ofName? name).isNone then some (.unknownGate name) else none

/-- The problem of the order of a node, given the earlier visits. -/
def orderProblem? (w : StoredNode) (earlier : List Visit) : Option Problem :=
  if w.order.toInt < 0 then some (.negativeOrder w.order)
  else
    match earlier.find? (·.1 == w.order) with
    | some (_, first) => some (.duplicateOrder w.order first)
    | none => none

/-- The problems that any node may have. -/
def commonProblems (w : StoredNode) (earlier : List Visit) : List Problem :=
  w.kindProblem?.toList ++
    (if w.hasPercentage then [] else [.chanceOutOfRange w.chance]) ++
    (w.orderProblem? earlier).toList

/-- The problems of a gate, apart from its branches. -/
def gateProblems (w : StoredNode) : List Problem :=
  (if w.trigger.isSome then [.triggerOnGate] else []) ++
    (if w.hasPercentage && w.chance != gateChance then [.chanceOnGate w.chance] else [])

/-- The problem of a branch that is no array. -/
def branchProblem? (w : StoredNode) (branch : Branch) : Option Problem :=
  match w.items? branch.key with
  | .error error => some (.malformedBranch branch error)
  | .ok _ => none

/-- The problems of an effect that the registry has no say in. -/
def effectProblems (w : StoredNode) : List Problem :=
  (match w.trigger with
    | some name => if (Trigger.ofName? name).isNone then [.unknownTrigger name] else []
    | none => []) ++
    (Branch.all.filter fun branch => w.params.contains branch.key).map .branchOnEffect

/-- The number of the effect, if it is one that a registry may have. -/
def positiveId? (w : StoredNode) : Option UInt32 := (w.effectId.bind word32?).filter (· ≠ 0)

/-- The problems that the legacy table finds. -/
def legacyProblems (w : StoredNode) : List Problem :=
  match (w.effectId.bind word32?).bind LegacyEntry.ofId? with
  | some entry =>
    (entry.required.filter fun name => !w.params.contains name).map (.legacyParameter entry ·)
  | none => []

end StoredNode

namespace Validator

/-! ## The parameters of an effect -/

/-- The signed word of a value that is one. -/
def signedWord? (v : Value) : Option Int64 := (v.number?.bind (·.signed?)).map Int64.ofInt

/-- The problem of a reference.  The number stands under a name that ends in `Id`, and the zone
under the same name with `ZoneId` instead. -/
def referenceProblem? (registry : Registry) (params : Dict Value) (name : String)
    (kind : EntityKind) (v : Value) : Option Problem := do
  let stem ← Text.before? "Id".toList name.toList
  let zoneId ← (params.get? (String.ofList stem ++ "ZoneId")).bind signedWord?
  let id ← signedWord? v
  if (registry.entity? kind zoneId id).isNone then some (.danglingReference name kind zoneId id)
  else none

/-- The problem of a parameter. -/
def parameterProblem? (registry : Registry) (effect : String) (params : Dict Value) (name : String)
    (spec : Parameter) : Option Problem :=
  match params.get? name with
  | none => if spec.required then some (.missingParameter effect name) else none
  | some v =>
    match spec.fault? v with
    | some fault => some (.invalidParameter name fault)
    | none => spec.reference.bind fun kind => referenceProblem? registry params name kind v

/-- The problems that the registry finds with an effect. -/
def schemaProblems (registry : Registry) (w : StoredNode) : List Problem :=
  if registry.isReady then
    match w.positiveId? with
    | none => []
    | some id =>
      match registry.effect? id with
      | none => [.unknownEffect id]
      | some d =>
        d.parameters.entries.filterMap fun (name, spec) =>
          parameterProblem? registry d.name w.params name spec
  else []

/-! ## Entries and documents -/

mutual

/-- The problems of an entry and of all that stands below it, given the earlier visits. -/
def entryProblems (v : Validator) (path : NodePath) (earlier : List Visit) : Entry → List Located
  | .unreadable error => [(path, .unreadableEntry error)]
  | .node w onPass onFail =>
    let here (problems : List Problem) : List Located := problems.map fun p => (path, p)
    here (w.commonProblems earlier) ++
      (if w.gateName.isSome then
        let passEarlier := earlier ++ [(w.order, path)]
        let failEarlier := passEarlier ++ Entry.visitsOf (path.child .onPass) 0 onPass
        here w.gateProblems ++
          here (w.branchProblem? .onPass).toList ++
          entriesProblems v (path.child .onPass) 0 passEarlier onPass ++
          here (w.branchProblem? .onFail).toList ++
          entriesProblems v (path.child .onFail) 0 failEarlier onFail
      else here w.effectProblems ++ here (schemaProblems v.registry w)) ++
      (if v.config.legacyChecks then here w.legacyProblems else [])
termination_by structural entry => entry

/-- The problems of a list of entries, given their paths by index. -/
def entriesProblems (v : Validator) (path : Nat → NodePath) (index : Nat) (earlier : List Visit) :
    List Entry → List Located
  | [] => []
  | entry :: rest =>
    entryProblems v (path index) earlier entry ++
      entriesProblems v path (index + 1) (earlier ++ entry.visits (path index)) rest
termination_by structural entries => entries

end

/-- The problems of a document. -/
def problems (v : Validator) (d : Document) : List Located :=
  v.entriesProblems .top 0 [] d.entries

/-- The path of the finding about the whole document. -/
def documentPath : String := "Document"

/-- The finding that the registry is not ready. -/
def notLoaded : Finding where
  severity := .warning
  layer := .schema
  path := documentPath
  field := none
  message := "effect registry not loaded; parameter checks skipped"

/-- All findings of a document. -/
def findings (v : Validator) (d : Document) : List Finding :=
  (if v.registry.isReady then [] else [notLoaded]) ++
    (v.problems d).map fun (path, p) => p.finding path

/-- The report on a document. -/
def validate (v : Validator) (d : Document) : Report := .ofFindings (v.findings d)

end Validator

end EffectFlow
