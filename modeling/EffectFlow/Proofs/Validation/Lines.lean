import EffectFlow.Proofs.Json.OneLine
import EffectFlow.Proofs.Validation.Places
import Mathlib.Algebra.GroupWithZero.Nat

/-!
# The lines of a report

A report is meant to have a line for each finding and one for the summary.  Names stand in messages
as they are, those of gates and triggers and texts that are no option from the document, and those
of effects, parameters and options from the registry.  So a name with a line feed breaks its line.

`Problem.quoted` lists the names that a problem quotes.  Nothing else in a finding has a line feed
(`Validator.breaks_line_of_mem`): neither paths, numbers and JSON, nor the errors of branches and
their items, nor the words of the legacy table, which are those of `Problem.cited`.

So a report has one line more for each line feed in a quoted name, and its lines are its findings
and its summary exactly if there is none (`Validator.lines_report`).
-/

namespace EffectFlow

open Json (Value)
open Text (OneLine)

/-! ## Lines of a text -/

namespace Text

/-- The lines of a text. -/
def lines (text : String) : List String := (text.toList.splitOn '\n').map String.ofList

/-- The number of line feeds in a text. -/
def breaks (text : String) : Nat := text.toList.count '\n'

theorem breaks_eq_zero_iff {text : String} : breaks text = 0 ↔ OneLine text := List.count_eq_zero

@[simp] theorem breaks_append (front back : String) :
    breaks (front ++ back) = breaks front + breaks back := by
  rw [breaks, String.toList_append, List.count_append, breaks, breaks]

theorem length_splitOn (cs : List Char) : (cs.splitOn '\n').length = cs.count '\n' + 1 := by
  induction cs with
  | nil => rfl
  | cons c cs ih =>
    rw [List.splitOn_eq_splitOnP] at ih ⊢
    rw [List.splitOnP_cons_eq_if_modifyHead, List.count_cons]
    split <;> simp [ih]

theorem length_lines (text : String) : (lines text).length = breaks text + 1 := by
  rw [lines, List.length_map, length_splitOn, breaks]

/-- A text that is put together has the line feeds of its parts and of what stands between them. -/
theorem breaks_intercalate (between : String) (parts : List String) :
    breaks (between.intercalate parts) =
      (parts.map breaks).sum + (parts.length - 1) * breaks between := by
  match parts with
  | [] => simp [breaks]
  | [part] => simp
  | part :: next :: rest =>
    have ih := breaks_intercalate between (next :: rest)
    rw [String.intercalate_cons_cons, breaks_append, breaks_append, ih]
    simp only [List.map_cons, List.sum_cons, List.length_cons, Nat.add_sub_cancel]
    rw [Nat.add_mul _ 1, Nat.one_mul]
    omega

theorem length_lines_intercalate {parts : List String} (nonempty : parts ≠ []) :
    (lines ("\n".intercalate parts)).length = parts.length + (parts.map breaks).sum := by
  have pos := List.length_pos_iff.2 nonempty
  rw [length_lines, breaks_intercalate, show breaks "\n" = 1 from rfl]
  omega

theorem sum_breaks_eq_zero_iff {texts : List String} :
    (texts.map breaks).sum = 0 ↔ ∀ text ∈ texts, OneLine text := by
  rw [List.sum_eq_zero_iff_forall_eq_nat, List.forall_mem_map]
  exact forall₂_congr fun text _ => breaks_eq_zero_iff

/-- Parts with a line feed between any two are the lines of the text exactly if each is one line. -/
theorem lines_intercalate_iff {parts : List String} (nonempty : parts ≠ []) :
    lines ("\n".intercalate parts) = parts ↔ ∀ part ∈ parts, OneLine part := by
  constructor
  · intro same
    have length := length_lines_intercalate nonempty
    rw [same] at length
    exact sum_breaks_eq_zero_iff.1 (by omega)
  · intro plain
    rw [lines, String.toList_intercalate]
    show (List.splitOn '\n' (['\n'].intercalate _)).map _ = _
    rw [List.splitOn_intercalate]
    · simp
    · simpa using plain
    · simpa using nonempty

end Text

/-! ## Names in messages -/

open Text (breaks breaks_append breaks_eq_zero_iff)

/-- The names that a fault quotes as they are. -/
def ValueFault.quoted : ValueFault → List String
  | wrongKind _ _ | belowMinimum _ _ | aboveMaximum _ _ => []
  | notAnOption found options => found :: options
  | missingField name => [name]
  | inField name fault => name :: fault.quoted

namespace Problem

/-- The names that a problem quotes as they are. -/
def quoted : Problem → List String
  | unknownGate name | unknownTrigger name | danglingReference name _ _ _ => [name]
  | missingParameter effect name => [name, effect]
  | invalidParameter name fault => name :: fault.quoted
  | _ => []

/-- The other texts that a problem takes over: errors of branches, and words of the legacy table. -/
def cited : Problem → List String
  | malformedBranch _ error | unreadableEntry error => [error.message]
  | legacyParameter entry name => [name, entry.name]
  | _ => []

end Problem

/-! ## Messages -/

theorem breaks_of_oneLine {text : String} (plain : OneLine text) : breaks text = 0 :=
  breaks_eq_zero_iff.2 plain

@[simp] theorem breaks_repr_nat (n : Nat) : breaks n.repr = 0 :=
  breaks_of_oneLine (oneLine_repr_nat n)

@[simp] theorem breaks_repr_int (n : Int) : breaks n.repr = 0 :=
  breaks_of_oneLine (oneLine_repr_int n)

@[simp] theorem ValueKind.breaks_name (kind : ValueKind) : breaks kind.name = 0 := by
  cases kind <;> rfl

@[simp] theorem EntityKind.breaks_name (kind : EntityKind) : breaks kind.name = 0 := by
  cases kind <;> rfl

@[simp] theorem Branch.breaks_key (branch : Branch) : breaks branch.key = 0 := by
  cases branch <;> rfl

@[simp] theorem Severity.breaks_name (severity : Severity) : breaks severity.name = 0 := by
  cases severity <;> rfl

@[simp] theorem NodePath.breaks_text (path : NodePath) : breaks path.text = 0 := by
  have step (step : Branch × Nat) : '\n' ∉ (stepText step).toList := by
    rw [toList_stepText]
    cases step.1 <;> simp [Branch.key, lineFeed_notMem_decimalDigits]
  refine breaks_of_oneLine ?_
  rw [OneLine, toList_text]
  simp [step, lineFeed_notMem_decimalDigits]

@[simp] theorem breaks_compact (v : Value) : breaks v.compact = 0 :=
  breaks_of_oneLine v.oneLine_compact

theorem breaks_bound (x : Binary64) : breaks (String.ofList (NumberLayout.bound.text x)) = 0 :=
  breaks_of_oneLine (Text.oneLine_ofList.2 (NumberLayout.lineFeed_notMem_bound x))

/-- A fault has the line feeds of the names that it quotes. -/
theorem ValueFault.breaks_message (fault : ValueFault) :
    breaks fault.message = (fault.quoted.map breaks).sum := by
  induction fault with
  | belowMinimum found min =>
    unfold message
    rw [breaks_append, breaks_bound]
    simp (disch := decide) [quoted, breaks_of_oneLine]
  | aboveMaximum found max =>
    unfold message
    rw [breaks_append, breaks_bound]
    simp (disch := decide) [quoted, breaks_of_oneLine]
  | notAnOption found options =>
    unfold message
    simp (disch := decide) [quoted, Text.breaks_intercalate, breaks_of_oneLine]
  | inField name fault ih =>
    unfold message
    simp (disch := decide) [quoted, breaks_of_oneLine, ih]
  | _ =>
    unfold message
    simp (disch := decide) [quoted, breaks_of_oneLine]

/-- A finding has the line feeds of its path, its field and its message. -/
theorem Finding.breaks_line (f : Finding) :
    breaks f.line = breaks f.path + breaks (f.field.getD "") + breaks f.message := by
  have legacy : breaks (if f.layer = .legacy then " (legacy)" else "") = 0 := by split <;> rfl
  unfold line text
  cases f.field <;> simp (disch := decide) [breaks_of_oneLine, legacy]

namespace Problem

/-- A problem has the line feeds of the names that it quotes and of the texts that it takes over. -/
theorem breaks_line (path : NodePath) (p : Problem) :
    breaks (p.finding path).line = ((p.quoted ++ p.cited).map breaks).sum := by
  rw [Finding.breaks_line]
  show breaks path.text + breaks (p.field.getD "") + breaks p.message = _
  rw [path.breaks_text, Nat.zero_add]
  cases p with
  | invalidParameter name fault =>
    unfold message
    rw [fault.breaks_message]
    simp [field, quoted, cited]
  | _ =>
    unfold message
    simp (disch := decide) [field, quoted, cited, breaks_of_oneLine]

theorem OfFields.cited {p : Problem} (ofFields : p.OfFields) : p.cited = [] := by
  cases p <;> first | rfl | exact ofFields.elim

theorem cited_of_schema {p : Problem} (schema : p.layer = .schema) : p.cited = [] := by
  cases p <;> first | rfl | cases schema

end Problem

/-! ## Texts that are taken over -/

/-- The words of the legacy table are one line each. -/
theorem LegacyEntry.oneLine_table : ∀ entry ∈ table, OneLine entry.name ∧
    ∀ name ∈ entry.required, OneLine name := by
  decide

namespace StoredNode

open Json.Reader in
theorem plain_shape : shape.Plain where
  name := by decide
  key := by decide
  read field mem := by
    simp only [shape, List.mem_cons, List.not_mem_nil, or_false] at mem
    have text := quotesOneLine_optional quotesOneLine_text
    have word := quotesOneLine_optional quotesOneLine_int64
    rcases mem with rfl | rfl | rfl | rfl | rfl | rfl
    · exact word.map _
    · exact text.map _
    · exact (quotesOneLine_dict quotesOneLine_value).map _
    · exact quotesOneLine_int64.map _
    · exact text.map _
    · exact quotesOneLine_int64.map _

/-- Why an item of a branch is no node is one line. -/
theorem breaks_message_item {u : Value} {fault : Json.Fault} (failed : ofValue u = .error fault)
    (branch : Branch) (i : Nat) :
    breaks (DocumentError.malformedBranch (place branch.key i) (.entry fault)).message = 0 := by
  have quoted := Json.Shape.quotesOneLine_read plain_shape .value _ _ _ failed
  have message := breaks_of_oneLine (Json.Fault.oneLine_message quoted)
  unfold DocumentError.message BranchFault.message place
  simp (disch := decide) [breaks_of_oneLine, message]

/-- Why a branch is no array is one line. -/
theorem breaks_message_branch {w : StoredNode} {branch : Branch} {error : DocumentError}
    (failed : w.items? branch.key = .error error) : breaks error.message = 0 := by
  rw [items?] at failed
  split at failed
  · cases failed
  · split at failed
    · cases failed
    · cases failed
      unfold DocumentError.message BranchFault.message
      simp (disch := decide) [breaks_of_oneLine]

end StoredNode

namespace Validator

variable {v : Validator} {d : Document}

theorem breaks_cited_branch {w : StoredNode} {branch : Branch} {p : Problem}
    (mem : p ∈ (w.branchProblem? branch).toList) : ∀ text ∈ p.cited, breaks text = 0 := by
  rw [Option.mem_toList, StoredNode.branchProblem?] at mem
  split at mem
  · next failed =>
    cases mem
    exact List.forall_mem_singleton.2 (StoredNode.breaks_message_branch failed)
  · cases mem

theorem breaks_cited_legacy {w : StoredNode} {p : Problem} (mem : p ∈ w.legacyProblems) :
    ∀ text ∈ p.cited, breaks text = 0 := by
  rw [StoredNode.legacyProblems] at mem
  split at mem
  · next entry found =>
    obtain ⟨name, lacking, rfl⟩ := List.mem_map.1 mem
    obtain ⟨id, -, listed⟩ := Option.bind_eq_some_iff.1 found
    have words := LegacyEntry.oneLine_table entry (List.mem_of_find?_eq_some listed)
    have named := words.2 name (List.mem_filter.1 lacking).1
    exact List.forall_mem_cons.2 ⟨breaks_of_oneLine named,
      List.forall_mem_singleton.2 (breaks_of_oneLine words.1)⟩
  · cases mem

/-- What a problem of a node cites is one line each. -/
theorem breaks_cited_node {path : NodePath} {earlier : List Visit} {w : StoredNode}
    {onPass onFail : List Entry} {p : Problem}
    (raised : p ∈ v.raised ⟨path, earlier, .node w onPass onFail⟩) :
    ∀ text ∈ p.cited, breaks text = 0 := by
  have of_empty (empty : p.cited = []) : ∀ text ∈ p.cited, breaks text = 0 := by
    rw [empty]
    exact List.forall_mem_nil _
  rcases of_mem_raised_node raised with ofFields | ⟨branch, atBranch⟩ | schema | legacy
  · exact of_empty ofFields.cited
  · exact breaks_cited_branch atBranch
  · exact of_empty (Problem.cited_of_schema (of_mem_schemaProblems schema).1)
  · exact breaks_cited_legacy legacy

/-- What the problems of a document take over is one line. -/
theorem breaks_cited {stop : Stop} (at_stop : stop ∈ d.stops) {p : Problem}
    (raised : p ∈ v.raised stop) : ∀ text ∈ p.cited, breaks text = 0 := by
  obtain ⟨place, -, entry_eq⟩ := Document.walk?_of_mem_stops at_stop
  obtain ⟨path, earlier, entry⟩ := stop
  cases entry with
  | node w onPass onFail => exact breaks_cited_node raised
  | unreadable error =>
    rw [List.mem_singleton.1 raised]
    cases place with
    | node w => cases entry_eq
    | item branch i u =>
      have entry_eq : Entry.ofItem branch.key i u = .unreadable error := entry_eq
      cases read : StoredNode.ofValue u with
      | ok w =>
        rw [Entry.ofItem_of_ok read] at entry_eq
        cases entry_eq
      | error fault =>
        rw [Entry.ofItem_of_error read] at entry_eq
        cases entry_eq
        exact List.forall_mem_singleton.2 (StoredNode.breaks_message_item read branch i)

/-- A problem of a document has the line feeds of the names that it quotes. -/
theorem breaks_line_of_mem {x : Located} (mem : x ∈ v.problems d) :
    breaks (x.2.finding x.1).line = (x.2.quoted.map breaks).sum := by
  obtain ⟨stop, at_stop, -, raised⟩ := exists_stop_of_mem_entriesProblems mem
  have none : (x.2.cited.map breaks).sum = 0 :=
    List.sum_eq_zero_iff_forall_eq_nat.2 (List.forall_mem_map.2 (breaks_cited at_stop raised))
  rw [Problem.breaks_line, List.map_append, List.sum_append, none, Nat.add_zero]

theorem breaks_line_notLoaded : breaks notLoaded.line = 0 := by
  rw [Finding.breaks_line]
  decide

/-- The names that the problems of a document quote. -/
def quotedNames (v : Validator) (d : Document) : List String :=
  (v.problems d).flatMap (·.2.quoted)

end Validator

/-! ## Reports -/

namespace Report

theorem breaks_countOf (n : Nat) (noun : String) (plain : OneLine noun) :
    breaks (countOf n noun) = 0 := by
  unfold countOf
  split <;> simp (disch := decide) [breaks_of_oneLine, breaks_of_oneLine plain]

theorem breaks_summary (r : Report) : breaks r.summary = 0 := by
  have errors := breaks_countOf r.errors.length "error" (by decide)
  have warnings := breaks_countOf r.warnings.length "warning" (by decide)
  unfold summary
  split
  · split <;> simp (disch := decide) [breaks_of_oneLine, warnings]
  · simp (disch := decide) [breaks_of_oneLine, errors, warnings]

/-- A report has the line feeds of its findings. -/
theorem sum_breaks_ofFindings (findings : List Finding) :
    ((ofFindings findings).findings.map (breaks ·.line)).sum =
      (findings.map (breaks ·.line)).sum := by
  have perm : (ofFindings findings).findings.Perm findings := by
    show (findings.filter (·.severity = .error) ++
      findings.filter (·.severity ≠ .error)).Perm findings
    simp only [ne_eq, decide_not]
    exact List.filter_append_perm _ findings
  exact (perm.map _).sum_nat

/-- The findings of a report begin with the word for their severity, errors first. -/
theorem map_line_ofFindings (findings : List Finding) :
    (ofFindings findings).findings.map (·.line) =
      (ofFindings findings).errors.map (fun f => "error: " ++ f.text) ++
        (ofFindings findings).warnings.map (fun f => "warning: " ++ f.text) := by
  rw [Report.findings, List.map_append]
  congr 1
  · refine List.map_congr_left fun f mem => ?_
    have error : f.severity = .error := of_decide_eq_true (List.mem_filter.1 mem).2
    rw [Finding.line, error]
    rfl
  · refine List.map_congr_left fun f mem => ?_
    have warning : f.severity = .warning :=
      Severity.ne_error_iff.1 (of_decide_eq_true (List.mem_filter.1 mem).2)
    rw [Finding.line, warning]
    rfl

end Report

namespace Validator

/-- The lines of a report have the line feeds of the names that its problems quote. -/
theorem sum_breaks_validate (v : Validator) (d : Document) :
    (((v.validate d).findings.map (·.line) ++ [(v.validate d).summary]).map breaks).sum =
      ((v.quotedNames d).map breaks).sum := by
  have first : (((if v.registry.isReady then [] else [notLoaded]) : List Finding).map
      (breaks ·.line)).sum = 0 := by
    split
    · rfl
    · simp [breaks_line_notLoaded]
  have each : (v.problems d).map (fun x => breaks (x.2.finding x.1).line) =
      (v.problems d).map fun x => (x.2.quoted.map breaks).sum :=
    List.map_congr_left fun x mem => breaks_line_of_mem mem
  calc (((v.validate d).findings.map (·.line) ++ [(v.validate d).summary]).map breaks).sum
      = ((v.validate d).findings.map (breaks ·.line)).sum := by
        rw [List.map_append, List.sum_append, List.map_map]
        simp [Report.breaks_summary, Function.comp_def]
    _ = ((v.findings d).map (breaks ·.line)).sum := Report.sum_breaks_ofFindings _
    _ = ((v.problems d).map fun x => breaks (x.2.finding x.1).line).sum := by
        rw [findings, List.map_append, List.sum_append, first, Nat.zero_add, List.map_map]
        rfl
    _ = ((v.quotedNames d).map breaks).sum := by
        rw [each, quotedNames, List.map_flatMap, List.flatMap_def, List.sum_flatten, List.map_map]
        rfl

/-- A report has a line for each finding, one for the summary, and one more for each line feed in a
name that a problem quotes.  Its lines are the findings, errors first, and the summary exactly if no
such name has one. -/
theorem lines_report (v : Validator) (d : Document) :
    let r := v.validate d
    (Text.lines r.text).length =
        r.errors.length + r.warnings.length + 1 + ((v.quotedNames d).map breaks).sum ∧
      (Text.lines r.text = r.errors.map (fun f => "error: " ++ f.text) ++
          r.warnings.map (fun f => "warning: " ++ f.text) ++ [r.summary] ↔
        ∀ name ∈ v.quotedNames d, OneLine name) := by
  intro r
  have nonempty : r.findings.map (·.line) ++ [r.summary] ≠ [] := by simp
  have total := v.sum_breaks_validate d
  constructor
  · rw [Report.text, Text.length_lines_intercalate nonempty, total]
    simp [Report.findings, Nat.add_assoc]
  · have parts : r.errors.map (fun f => "error: " ++ f.text) ++
        r.warnings.map (fun f => "warning: " ++ f.text) = r.findings.map (·.line) :=
      (Report.map_line_ofFindings (v.findings d)).symm
    rw [parts, Report.text, Text.lines_intercalate_iff nonempty, ← Text.sum_breaks_eq_zero_iff,
      total, Text.sum_breaks_eq_zero_iff]

/-- A gate with a line feed in its name. -/
def brokenGate : Document := ⟨[⟨none, some "check\nvalid", ∅, 0, none, 100⟩]⟩

/-- An error and a warning, and a report of four lines. -/
theorem reported_and_split :
    let r := Validator.validate { registry := .empty } brokenGate
    r.errors.length + r.warnings.length + 1 = 3 ∧
      Text.lines r.text = ["error: Effect[0].gateType: unknown gate type 'check", "valid'",
        "warning: Document: effect registry not loaded; parameter checks skipped",
        "invalid: 1 error, 1 warning"] := by
  decide +kernel

end Validator

end EffectFlow
