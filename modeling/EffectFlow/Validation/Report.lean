/-!
# Validation reports

A report lists findings, errors apart from warnings.  Its text has a line for each finding, errors
first, and a summary.
-/

namespace EffectFlow

/-- How bad a finding is. -/
inductive Severity where
  /-- The document must not be saved. -/
  | error
  /-- The document may be saved. -/
  | warning
deriving DecidableEq, Repr

/-- The word for a severity. -/
def Severity.name : Severity → String
  | error => "error"
  | warning => "warning"

/-- Which checks a finding comes from. -/
inductive CheckLayer where
  /-- The rules for every document. -/
  | structural
  /-- The parameters that the registry declares. -/
  | schema
  /-- The legacy table. -/
  | legacy
deriving DecidableEq, Repr

/-- The word for a source. -/
def CheckLayer.name : CheckLayer → String
  | .structural => "structure"
  | .schema => "schema"
  | .legacy => "legacy"

/-- The checks of a word. -/
def CheckLayer.ofName? (name : String) : Option CheckLayer :=
  [CheckLayer.structural, .schema, .legacy].find? (·.name == name)

/-- Something that a check came upon. -/
structure Finding where
  /-- How bad it is. -/
  severity : Severity
  /-- Which check came upon it. -/
  layer : CheckLayer
  /-- The node. -/
  path : String
  /-- The field of the node, if it is about one. -/
  field : Option String
  /-- What is wrong. -/
  message : String
deriving DecidableEq

/-- A finding in words, without its severity. -/
def Finding.text (f : Finding) : String :=
  f.path ++ (match f.field with
    | some field => "." ++ field
    | none => "") ++ ": " ++ f.message ++ (if f.layer = .legacy then " (legacy)" else "")

/-- The line of a finding. -/
def Finding.line (f : Finding) : String := f.severity.name ++ ": " ++ f.text

/-- Findings, errors apart from warnings. -/
structure Report where
  /-- Are there no errors? -/
  valid : Bool
  /-- The errors. -/
  errors : List Finding
  /-- The warnings. -/
  warnings : List Finding
deriving DecidableEq

/-- A number of things in words. -/
def countOf (n : Nat) (noun : String) : String :=
  if n = 1 then "1 " ++ noun else toString n ++ " " ++ noun ++ "s"

namespace Report

/-- The report of some findings.  It is valid if none is an error. -/
def ofFindings (findings : List Finding) : Report :=
  let errors := findings.filter (·.severity = .error)
  { valid := errors.isEmpty
    errors
    warnings := findings.filter (·.severity ≠ .error) }

/-- All findings, errors first. -/
def findings (r : Report) : List Finding := r.errors ++ r.warnings

/-- The errors of a node. -/
def errorsAt (r : Report) (path : String) : List Finding := r.errors.filter (·.path == path)

/-- A report in a few words. -/
def summary (r : Report) : String :=
  let warnings := countOf r.warnings.length "warning"
  if r.valid then
    if r.warnings.isEmpty then "valid" else "valid (" ++ warnings ++ ")"
  else "invalid: " ++ countOf r.errors.length "error" ++ ", " ++ warnings

/-- The text of a report: a line for each finding, and the summary. -/
def text (r : Report) : String :=
  String.intercalate "\n" (r.findings.map (·.line) ++ [r.summary])

end Report

end EffectFlow
