import EffectFlow.Proofs.Pipeline.Codec
import EffectFlow.Proofs.Program.Acyclic
import EffectFlow.Proofs.Rebuild.BlockParams
import EffectFlow.Proofs.Rebuild.Outlines
import EffectFlow.Session

/-!
# Sessions in step

A session is *in step* if its text is the text of its document or a text that is read as the
document (`Session.InStep`).  Every edit keeps a session in step (`Session.inStep_step`), so it is
in step after any number of edits.

Being in step does not make the text readable: a document may be nested more deeply than a text may
be.  The text is read as the document exactly if the document is not nested too deeply
(`Session.ofText_text_iff`).  A script with deep arguments makes it too deep
(`Session.ofText_text_deepScript`).
-/

namespace EffectFlow

open Json (Value Tree)

namespace Session

/-! ## Edits -/

/-- What is done to a session. -/
inductive Edit where
  /-- A program is taken. -/
  | program (p : Program)
  /-- A text is taken, if it can be read. -/
  | text (text : String)
  /-- The program of the document is looked at. -/
  | load

/-- A session after an edit. -/
def step (s : Session) : Edit → Session
  | .program p => s.takeProgram p
  | .text text =>
    match s.takeText text with
    | .ok taken => taken
    | .error _ => s
  | .load => s

/-- A session after some edits. -/
def run (s : Session) (edits : List Edit) : Session := edits.foldl step s

/-- How a session begins. -/
inductive Started : Session → Prop
  /-- On an empty document. -/
  | start (registry : Registry) (config : Config) : Started (.start registry config)
  /-- On a document that was read from a text. -/
  | resume (registry : Registry) {text : String} {document : Document}
      (read : Document.ofText text = .ok document) : Started (.resume registry document)

/-! ## The invariant -/

/-- The text is that of the document, or is read as the document. -/
def InStep (s : Session) : Prop :=
  s.text = s.document.toText ∨ Document.ofText s.text = .ok s.document

/-- A session is in step at the start. -/
theorem inStep_of_started {s : Session} (h : s.Started) : s.InStep := by
  cases h with
  | start registry config => exact .inl rfl
  | resume registry read => exact .inl rfl

/-- An edit keeps a session in step. -/
theorem inStep_step {s : Session} (h : s.InStep) (edit : Edit) : (s.step edit).InStep := by
  cases edit with
  | program p => exact .inl rfl
  | load => exact h
  | text text =>
    rw [step, takeText]
    cases read : Document.ofText text with
    | ok document => exact .inr read
    | error error => exact h

/-- A session stays in step through any edits. -/
theorem inStep_run {s : Session} (h : s.InStep) (edits : List Edit) : (s.run edits).InStep := by
  induction edits generalizing s with
  | nil => exact h
  | cons edit rest ih => exact ih (inStep_step h edit)

/-! ## Reading the text again -/

/-- A text that is read as the document changes nothing when it is taken. -/
theorem takeText_text_iff {s : Session} :
    s.takeText s.text = .ok s ↔ Document.ofText s.text = .ok s.document := by
  rw [takeText]
  cases read : Document.ofText s.text with
  | error error => exact ⟨fun h => (nomatch h), fun h => (nomatch h)⟩
  | ok document =>
    constructor
    · intro h
      exact congrArg Except.ok (congrArg Session.document (Except.ok.inj h))
    · intro h
      rw [Except.ok.inj h]

/-- The text of a session in step is read back exactly if the document is nested within bounds. -/
theorem ofText_text_iff_of_inStep {s : Session} (h : s.InStep)
    (numbers : s.document.toTree.NumbersReadBack) :
    Document.ofText s.text = .ok s.document ↔ s.document.toTree.depth ≤ Json.maxDepth := by
  constructor
  · exact Document.depth_le_of_ofText
  · intro shallow
    rcases h with written | read
    · rw [written, Document.ofText_toText numbers, if_pos shallow]
    · exact read

/-- After any edits the text of a session is read as its document, and taking it changes nothing,
exactly if the document is not nested too deeply. -/
theorem ofText_text_iff {s : Session} (started : s.Started) (edits : List Edit)
    (numbers : (s.run edits).document.toTree.NumbersReadBack) :
    (Document.ofText (s.run edits).text = .ok (s.run edits).document ↔
        (s.run edits).document.toTree.depth ≤ Json.maxDepth) ∧
      ((s.run edits).takeText (s.run edits).text = .ok (s.run edits) ↔
        (s.run edits).document.toTree.depth ≤ Json.maxDepth) := by
  have reads := ofText_text_iff_of_inStep (inStep_run (inStep_of_started started) edits) numbers
  exact ⟨reads, takeText_text_iff.trans reads⟩

/-- A check that leads to nothing. -/
def loneCheck : Program := ⟨[{ tag := "gate_check" }], [0]⟩

theorem outline_loneCheck : loneCheck.outline = [.gate 0 "gate_check" .check [] []] := by
  have chain : loneCheck.chain 0 = [0] := by decide +kernel
  show loneCheck.outlineWithin [] (loneCheck.chain 0) ++ [] = _
  rw [List.append_nil, chain, Program.outlineWithin_cons_gate rfl rfl List.not_mem_nil,
    Program.outlineWithin]
  rfl

/-- After a text that cannot be read, the text of the last program is still read as its document. -/
theorem ofText_text_loneCheck :
    Document.ofText ((start .empty).run [.program loneCheck, .text "[", .load]).text =
      .ok ((start .empty).run [.program loneCheck, .text "[", .load]).document := by
  have rejected : (start .empty).run [.program loneCheck, .text "[", .load] =
      (start .empty).takeProgram loneCheck := rfl
  have document : ((start .empty).takeProgram loneCheck).document =
      ⟨[⟨none, some "check", ∅, 0, none, 100⟩]⟩ := by
    show Document.ofNodes ((start .empty).compiler.nodes loneCheck 0 loneCheck.outline) = _
    rw [outline_loneCheck]
    decide +kernel
  refine
    (ofText_text_iff (.start .empty .standard) [.program loneCheck, .text "[", .load] ?_).1.2 ?_
  · rw [rejected, document]
    exact ⟨⟨trivial, trivial, Json.Number.readsBack_integer _ _,
      Json.Number.readsBack_integer _ _, trivial⟩, trivial⟩
  · rw [rejected, document]
    decide

/-! ## Deep arguments -/

/-- A script with arguments. -/
def scriptBlock (args : String) : Block where
  tag := "effect_script"
  fields := Dict.ofList [("args", .text args)]

/-- The program of a script. -/
def script (args : String) : Program := ⟨[scriptBlock args], [0]⟩

theorem outline_script (args : String) : (script args).outline = [.plain 0 "effect_script"] := by
  have chain : (script args).chain 0 = [0] := Program.chain_eq_cons 0
  show (script args).outlineWithin [] ((script args).chain 0) ++ [] = _
  rw [List.append_nil, chain, Program.outlineWithin_cons_plain rfl rfl, Program.outlineWithin]
  rfl

theorem check_script (args : String) : (script args).check = .ok () := by
  have search : (script args).search [] [] [0] = .ok [0] := by
    rw [Program.search_of_block? List.not_mem_nil List.not_mem_nil rfl (Program.search_nil _ _),
      Program.search_nil]
  have noLoop : (script args).cycle? = none := by
    rw [Program.cycle?, show (script args).blocks.length = 1 from rfl, List.range_one, search]
  rw [Program.check, show (script args).dangling? = none from rfl, noLoop]

/-- Before the registry is ready a script is compiled with its arguments, as any other effect. -/
theorem document_script (registry : Registry) (unready : registry.isReady = false)
    (args : String) : ∃ w, (start registry).compiler.document (script args) = ⟨[w]⟩ ∧
      w.params = (start registry).compiler.blockParams (scriptBlock args) := by
  have unresolved : (start registry).compiler.registry.resolve "effect_script" = .notLoaded :=
    if_neg (by simp [unready, start, Session.compiler])
  have placeholder : (start registry).compiler.effectId? "effect_script" = some placeholderId := by
    rw [Compiler.effectId?, unresolved]
    rfl
  show ∃ w, Document.ofNodes
    ((start registry).compiler.nodes (script args) 0 (script args).outline) = ⟨[w]⟩ ∧ _
  rw [outline_script, Compiler.nodes, Compiler.node?, placeholder]
  exact ⟨_, rfl, rfl⟩

/-- The arguments of a script become the value of their text. -/
theorem get?_blockParams_script {c : Compiler} (builtIn : c.rules = .builtIn) {args : String}
    {v : Value} (nonempty : args ≠ "") (read : Value.ofText? args = some v) :
    (c.blockParams (scriptBlock args)).get? "args" = some v := by
  have rules : c.rules.rulesFor (scriptBlock args).tag = [.json "args"] := by
    rw [builtIn]
    rfl
  have given : (scriptBlock args).fields.get? "args" = some (.text args) := rfl
  have written : (c.writtenFields (scriptBlock args)).get? "args" = some (.text args) := by
    rw [Compiler.get?_writtenFields, given]
    exact Option.filter_some_pos (Compiler.admits_builtIn builtIn rules List.mem_cons_self
      (.inr (Compiler.isEmptyMark_text nonempty)))
  rw [Compiler.get?_blockParams_json rules, if_pos rfl, written, Option.map_some]
  show some ((Value.ofText? args).getD _) = some v
  rw [read, Option.getD_some]

/-- Opening brackets and as many closing ones. -/
def brackets (count : Nat) : String :=
  String.ofList (List.replicate count '[' ++ List.replicate count ']')

theorem brackets_ne_empty : brackets 125 ≠ "" := by
  intro empty
  have chars := congrArg String.toList empty
  rw [brackets, String.toList_ofList] at chars
  cases chars

/-- The value of a text, from its characters. -/
theorem ofText?_ofList (cs : List Char) :
    Value.ofText? (String.ofList cs) =
      match Tree.read (2 * cs.length + 2) cs with
      | (t, some rest) =>
        if (Json.skipSpace rest).isEmpty && t.depth ≤ Json.maxDepth then Value.ofTree? t else none
      | (_, none) => none := by
  simp only [Value.ofText?, Tree.parse?, Tree.scan, String.toList_ofList]
  obtain ⟨t, rest⟩ := Tree.read (2 * cs.length + 2) cs
  cases rest with
  | none => rfl
  | some rest => by_cases atEnd : Json.skipSpace rest = [] <;> simp [atEnd]

theorem exists_ofText?_brackets :
    ∃ v, Value.ofText? (brackets 125) = some v ∧ v.tree.depth = 125 := by
  have depth : (Value.ofText? (brackets 125)).map (·.tree.depth) = some 125 := by
    rw [brackets, ofText?_ofList]
    decide +kernel
  exact Option.map_eq_some_iff.1 depth

/-- After a sound program with deep arguments, the text of a session is not read as its
document. -/
theorem ofText_text_deepScript :
    (script (brackets 125)).check = .ok () ∧
      Document.ofText ((start .empty).run [.program (script (brackets 125))]).text ≠
        .ok ((start .empty).run [.program (script (brackets 125))]).document := by
  refine ⟨check_script _, fun read => ?_⟩
  obtain ⟨v, value, deep⟩ := exists_ofText?_brackets
  obtain ⟨w, document, params⟩ := document_script .empty rfl (brackets 125)
  have args : w.params.get? "args" = some v := by
    rw [params]
    exact get?_blockParams_script rfl brackets_ne_empty value
  have taken : ((start .empty).run [.program (script (brackets 125))]).document = ⟨[w]⟩ := document
  have shallow := Document.depth_le_of_ofText read
  rw [taken] at shallow
  have node : w.toTree.depth ≤ 126 := by
    have both : 1 + max w.toTree.depth 0 ≤ 127 := shallow
    omega
  rw [StoredNode.depth_toTree] at node
  have object : (Value.object w.params).tree.depth ≤ 124 + 1 := by omega
  have member := Value.depth_object_le_iff.1 object ("args", v) (Dict.get?_eq_some_iff.1 args)
  rw [deep] at member
  omega

end Session

end EffectFlow
