import EffectFlow.Compile.Compilation
import EffectFlow.Rebuild.Layout
import EffectFlow.Validation.Validator

/-!
# Editing sessions

A session holds a document and its text.  A program that was edited is compiled anew.  A text that
was edited by hand counts only if it can be read; otherwise the last document stays.
-/

namespace EffectFlow

/-- A document under edit. -/
structure Session where
  /-- The registry. -/
  registry : Registry
  /-- The settings. -/
  config : Config
  /-- The last document that was accepted. -/
  document : Document
  /-- Its text. -/
  text : String

namespace Session

/-- A session on an empty document. -/
def start (registry : Registry) (config : Config := .standard) : Session :=
  ⟨registry, config, ⟨[]⟩, Document.toText ⟨[]⟩⟩

/-- A session on a stored document, with the standard settings. -/
def resume (registry : Registry) (document : Document) : Session :=
  ⟨registry, .standard, document, document.toText⟩

/-- The compiler of a session. -/
def compiler (s : Session) : Compiler := { registry := s.registry, config := s.config }

/-- Compiles an edited program and takes the result. -/
def takeProgram (s : Session) (p : Program) : Session :=
  let document := s.compiler.document p
  { s with document, text := document.toText }

/-- Takes an edited text if it can be read. -/
def takeText (s : Session) (text : String) : Except DocumentError Session :=
  match Document.ofText text with
  | .ok document => .ok { s with document, text }
  | .error error => .error error

/-- The program of the document. -/
def program (s : Session) : Program := s.compiler.rebuild s.document

/-- The report on the document. -/
def report (s : Session) : Report :=
  Validator.validate { registry := s.registry, config := s.config } s.document

/-- May the document be saved? -/
def isSavable (s : Session) : Bool := s.report.valid

end Session

end EffectFlow
