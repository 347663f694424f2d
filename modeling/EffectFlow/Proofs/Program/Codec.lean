import EffectFlow.Program.Json
import EffectFlow.Proofs.Json.Records
import EffectFlow.Proofs.Program.Acyclic

/-!
# Programs that read back

A program is written without its empty slots and without the links and places that are absent, and
their fields have these as defaults.  So a block is read back from its tree
(`Block.reads_toTree`), and so is a program (`Program.reads_toTree`), if its handles are words of 64
bits.

A program whose numbers read back is read from its text as it is.  So its links are checked as they
are, and the result is the program or what the check finds wrong with it
(`Program.ofText_toText_checked`).
-/

namespace EffectFlow

open Json (Value Tree Reader Shape)

/-! ## Handles and places -/

/-- The handle is a word of 64 bits. -/
def Handle.Fits (h : Handle) : Prop := h ≤ Json.maxUnsigned64

instance (h : Handle) : Decidable (Handle.Fits h) :=
  inferInstanceAs (Decidable (h ≤ Json.maxUnsigned64))

theorem Handle.reads_toTree {h : Handle} (fits : h.Fits) : Reader.index.Reads h.toTree h := by
  have least : min h Json.maxUnsigned64 = h := Nat.min_eq_left fits
  simp only [toTree, least]
  exact Reader.reads_index fits

theorem Position.reads_toTree (p : Position) : Reader.Reads Position.read p.toTree p :=
  Reader.reads_map (Reader.reads_pair (Reader.reads_float p.x) (Reader.reads_float p.y))
    fun xy => Position.mk xy.1 xy.2

/-! ## Blocks -/

namespace Block

/-- The members of a block as they are written, with the changes that they stand for. -/
def written (b : Block) : List (Shape.Member Block) :=
  [⟨"type", .text b.tag, fun r => { r with tag := b.tag }⟩,
    ⟨"fields", (Value.object b.fields).tree, fun r => { r with fields := b.fields }⟩] ++
  (if b.slots.isEmpty then []
    else [⟨"slots", .object (b.slots.map Handle.toTree).entries,
      fun r => { r with slots := b.slots }⟩]) ++
  (b.next.map fun n => ⟨"next", Handle.toTree n, fun r => { r with next := some n }⟩).toList ++
  (b.position.map fun p =>
    ⟨"position", p.toTree, fun r => { r with position := some p }⟩).toList

theorem toTree_eq (b : Block) : b.toTree = .object (b.written.map fun m => (m.key, m.tree)) := by
  rw [toTree, written]
  cases b.slots.isEmpty <;> cases b.next <;> cases b.position <;> rfl

/-- The fields of a block read what is written for them. -/
theorem takes_of_mem_written {b : Block} (fits : ∀ h ∈ b.links, Handle.Fits h)
    {m : Shape.Member Block} (mem : m ∈ b.written) : Block.shape.Takes m := by
  rw [written, List.mem_append, List.mem_append, List.mem_append] at mem
  rcases mem with ((tag_or_fields | slots) | next) | position
  · simp only [List.mem_cons, List.not_mem_nil, or_false] at tag_or_fields
    rcases tag_or_fields with rfl | rfl
    · exact ⟨_, rfl, Reader.reads_map (Reader.reads_text b.tag) _⟩
    · exact ⟨_, rfl, Reader.reads_map (Reader.reads_dict_value b.fields) _⟩
  · split at slots
    · cases slots
    · rw [List.mem_singleton.1 slots]
      have heads : (Reader.dict Reader.index).Reads
          (.object (b.slots.map Handle.toTree).entries) b.slots :=
        Reader.reads_dict fun e mem => Handle.reads_toTree <|
          fits e.2 (List.mem_append_right _ (List.mem_map_of_mem mem))
      exact ⟨_, rfl, Reader.reads_map heads _⟩
  · rw [Option.mem_toList, Option.map_eq_some_iff] at next
    obtain ⟨n, isNext, rfl⟩ := next
    have link : (Reader.optional Reader.index).Reads (Handle.toTree n) (some n) :=
      Reader.reads_optional (Handle.reads_toTree <|
        fits n (List.mem_append_left _ (Option.mem_toList.2 isNext))) Tree.noConfusion
    exact ⟨_, rfl, Reader.reads_map link _⟩
  · rw [Option.mem_toList, Option.map_eq_some_iff] at position
    obtain ⟨p, -, rfl⟩ := position
    have place : (Reader.optional Position.read).Reads p.toTree (some p) :=
      Reader.reads_optional p.reads_toTree Tree.noConfusion
    exact ⟨_, rfl, Reader.reads_map place _⟩

/-- What is left out are the defaults. -/
theorem foldl_written (b : Block) :
    b.written.foldl (fun r m => m.change r) Block.shape.blank = b := by
  obtain ⟨tag, fields, slots, next, position⟩ := b
  cases empty : slots.isEmpty with
  | true =>
    obtain ⟨entries, ascending⟩ := slots
    cases List.isEmpty_iff.1 empty
    cases next <;> cases position <;> rfl
  | false =>
    simp only [written, empty]
    cases next <;> cases position <;> rfl

/-- A block is read back from its tree. -/
theorem reads_toTree {b : Block} (fits : ∀ h ∈ b.links, Handle.Fits h) (origin : Json.Origin) :
    (Block.shape.read origin).Reads b.toTree b := by
  rw [toTree_eq]
  refine Shape.reads_object (fun m mem => takes_of_mem_written fits mem) ?distinct ?complete
    b.foldl_written origin
  case distinct =>
    rw [written]
    cases b.slots.isEmpty <;> cases b.next <;> cases b.position <;> simp
  case complete =>
    intro field mem required
    simp only [shape, List.mem_cons, List.not_mem_nil, or_false] at mem
    rcases mem with rfl | rfl | rfl | rfl | rfl
    · exact List.mem_cons_self
    all_goals cases required

/-- What is written of a block. -/
theorem forall_tree_written {b : Block} {P : Tree → Prop} :
    (∀ m ∈ b.written, P m.tree) ↔
      P (.text b.tag) ∧ P (Value.object b.fields).tree ∧
        (b.slots.isEmpty = false → P (.object (b.slots.map Handle.toTree).entries)) ∧
          (∀ n, b.next = some n → P (Handle.toTree n)) ∧
            ∀ p, b.position = some p → P p.toTree := by
  rw [written]
  cases b.slots.isEmpty <;> cases b.next <;> cases b.position <;> simp

/-- Every piece of a block that is written has a value. -/
theorem isWhole_toTree (b : Block) : b.toTree.isWhole = true := by
  rw [toTree_eq, Tree.isWhole, Tree.isWholeMembers_iff, List.forall_mem_map]
  refine (forall_tree_written (P := fun t => t.isWhole = true)).2
    ⟨rfl, ?fields, fun _ => ?slots, fun _ _ => rfl, fun _ _ => rfl⟩
  case fields => exact Tree.isWhole_of_normal (Value.object b.fields).normal
  case slots =>
    refine Tree.isWholeMembers_iff.2 fun m mem => ?_
    obtain ⟨e, -, rfl⟩ := List.mem_map.1 mem
    rfl

/-- The numbers of a block read back if those of its fields and its place do. -/
theorem numbersReadBack_toTree {b : Block} :
    b.toTree.NumbersReadBack ↔
      (Value.object b.fields).tree.NumbersReadBack ∧ ∀ p, b.position = some p →
        (Json.Number.float p.x).ReadsBack ∧ (Json.Number.float p.y).ReadsBack := by
  have handle (h : Handle) : (Handle.toTree h).NumbersReadBack :=
    Json.Number.readsBack_integer _ _
  have slots : (Tree.object (b.slots.map Handle.toTree).entries).NumbersReadBack := by
    refine Tree.numbersReadBackMembers_iff.2 fun m mem => ?_
    obtain ⟨e, -, rfl⟩ := List.mem_map.1 mem
    exact handle e.2
  have place (p : Position) : p.toTree.NumbersReadBack ↔
      (Json.Number.float p.x).ReadsBack ∧ (Json.Number.float p.y).ReadsBack := by
    simp [Position.toTree, Tree.float, Tree.NumbersReadBack, Tree.NumbersReadBackItems]
  rw [toTree_eq, Tree.NumbersReadBack, Tree.numbersReadBackMembers_iff, List.forall_mem_map,
    forall_tree_written (P := Tree.NumbersReadBack)]
  simp only [place]
  constructor
  · rintro ⟨-, fields, -, -, position⟩
    exact ⟨fields, position⟩
  · rintro ⟨fields, position⟩
    exact ⟨trivial, fields, fun _ => slots, fun n _ => handle n, position⟩

end Block

/-! ## Programs -/

namespace Program

/-- All handles are words of 64 bits. -/
def HandlesFit (p : Program) : Prop :=
  (∀ h ∈ p.chains, Handle.Fits h) ∧ ∀ b ∈ p.blocks, ∀ h ∈ b.links, Handle.Fits h

/-- The members of a program as they are written, with the changes that they stand for. -/
def written (p : Program) : List (Shape.Member Program) :=
  [⟨"blocks", .array (p.blocks.map (·.toTree)), fun r => { r with blocks := p.blocks }⟩,
    ⟨"chains", .array (p.chains.map Handle.toTree), fun r => { r with chains := p.chains }⟩]

/-- A program is read back from its tree. -/
theorem reads_toTree {p : Program} (fits : p.HandlesFit) (origin : Json.Origin) :
    (Program.shape.read origin).Reads p.toTree p := by
  have blocks : (Reader.list (Block.shape.read .text)).Reads
      (.array (p.blocks.map (·.toTree))) p.blocks :=
    Reader.reads_list fun b mem => Block.reads_toTree (fits.2 b mem) .text
  have chains : (Reader.list Reader.index).Reads (.array (p.chains.map Handle.toTree)) p.chains :=
    Reader.reads_list fun h mem => Handle.reads_toTree (fits.1 h mem)
  have takes : ∀ m ∈ p.written, Program.shape.Takes m := by
    refine List.forall_mem_cons.2 ⟨?_, List.forall_mem_singleton.2 ?_⟩
    · exact ⟨_, rfl, Reader.reads_map blocks _⟩
    · exact ⟨_, rfl, Reader.reads_map chains _⟩
  refine Shape.reads_object takes (by simp [written]) ?complete rfl origin
  case complete =>
    intro field mem required
    simp only [shape, List.mem_cons, List.not_mem_nil, or_false] at mem
    rcases mem with rfl | rfl <;> cases required

theorem isWhole_toTree (p : Program) : p.toTree.isWhole = true := by
  have blocks : Tree.isWholeItems (p.blocks.map (·.toTree)) = true :=
    Tree.isWholeItems_iff.2 (List.forall_mem_map.2 fun b _ => b.isWhole_toTree)
  have chains : Tree.isWholeItems (p.chains.map Handle.toTree) = true :=
    Tree.isWholeItems_iff.2 (List.forall_mem_map.2 fun _ _ => rfl)
  simp only [toTree, Tree.isWhole, Tree.isWholeMembers, blocks, chains, Bool.and_self]

/-- The numbers of a program read back if those of all fields and places do. -/
theorem numbersReadBack_toTree {p : Program} :
    p.toTree.NumbersReadBack ↔ ∀ b ∈ p.blocks,
      (Value.object b.fields).tree.NumbersReadBack ∧ ∀ place, b.position = some place →
        (Json.Number.float place.x).ReadsBack ∧ (Json.Number.float place.y).ReadsBack := by
  have chains : Tree.NumbersReadBackItems (p.chains.map Handle.toTree) :=
    Tree.numbersReadBackItems_iff.2 <|
      List.forall_mem_map.2 fun _ _ => Json.Number.readsBack_integer _ _
  have blocks : Tree.NumbersReadBackItems (p.blocks.map (·.toTree)) ↔
      ∀ b ∈ p.blocks, b.toTree.NumbersReadBack := by
    rw [Tree.numbersReadBackItems_iff, List.forall_mem_map]
  simp only [← Block.numbersReadBack_toTree, ← blocks]
  constructor
  · exact fun both => both.1
  · exact fun first => ⟨first, chains, trivial⟩

/-- A program is read from its text as it is, unless it is nested too deeply. -/
theorem ofTextUnchecked_toText {p : Program} (fits : p.HandlesFit)
    (back : p.toTree.NumbersReadBack) :
    ofTextUnchecked p.toText =
      if p.toTree.depth ≤ Json.maxDepth then .ok p
      else .error (.malformed ⟨.unreadable, false⟩) := by
  rw [ofTextUnchecked, toText, Reader.ofText_pretty (reads_toTree fits .text) p.isWhole_toTree back]
  by_cases shallow : p.toTree.depth ≤ Json.maxDepth
  · simp only [if_pos shallow]
  · simp only [if_neg shallow]

/-- All numbers in the fields of the blocks, at any depth, are integers. -/
def OnlyIntegers (p : Program) : Prop :=
  ∀ b ∈ p.blocks, (Value.object b.fields).tree.onlyIntegers = true

/-- The distances of all places read back. -/
def PlacesReadBack (p : Program) : Prop :=
  ∀ b ∈ p.blocks, ∀ place, b.position = some place →
    (Json.Number.float place.x).ReadsBack ∧ (Json.Number.float place.y).ReadsBack

/-- From the text of a program that is not nested too deeply, the program itself is read, if its
links are sound, and otherwise the result is what is wrong with them. -/
theorem ofText_toText_checked {p : Program} (fits : p.HandlesFit) (integers : p.OnlyIntegers)
    (places : p.PlacesReadBack) (shallow : p.toTree.depth ≤ Json.maxDepth) :
    ofText p.toText =
      match p.check with
      | .ok () => .ok p
      | .error error => .error error := by
  have back : p.toTree.NumbersReadBack := numbersReadBack_toTree.2 fun b mem =>
    ⟨Tree.numbersReadBack_of_onlyIntegers (integers b mem), places b mem⟩
  have read : ofTextUnchecked p.toText = .ok p := by
    rw [ofTextUnchecked_toText fits back, if_pos shallow]
  cases checked : p.check with
  | ok _ =>
    show ofText p.toText = .ok p
    simp only [ofText, read, checked]
  | error error =>
    show ofText p.toText = .error error
    simp only [ofText, read, checked]

/-- A gate at a place over a block without a tag, and a block after the gate. -/
def placedGate : Program where
  blocks := [
    { tag := "gate_check", slots := Dict.ofList [("on\"Pass", 1)], next := some 2,
      position := some ⟨Binary64.ofNat 20, -Binary64.ofNat 0⟩ },
    { tag := "", fields := Dict.ofList [
      ("", .array [.int64 (-0x8000000000000000), .null]),
      ("slots", .number (.ofNat Json.maxUnsigned64 (Nat.le_refl _)))] },
    { tag := "effect_script" }]
  chains := [0]

/-- The same with one more chain, which points nowhere. -/
def strayChain : Program := { placedGate with chains := [0, 0xFFFFFFFFFFFFFFFF] }

theorem check_placedGate : placedGate.check = .ok () := by
  have slot_and_next : placedGate.search [0] [] [1, 2] = .ok [2, 1] := by
    rw [search_of_block? (by decide) (by decide) rfl (search_nil _ _),
      search_of_block? (by decide) (by decide) rfl (search_nil _ _), search_nil]
  have all : placedGate.search [] [] [0, 1, 2] = .ok [0, 2, 1] := by
    rw [search_of_block? (by decide) (by decide) rfl slot_and_next,
      search_of_done (by decide) (by decide), search_of_done (by decide) (by decide), search_nil]
  have noLoop : placedGate.cycle? = none := by
    rw [cycle?, show List.range placedGate.blocks.length = [0, 1, 2] from rfl, all]
  rw [check, show placedGate.dangling? = none from rfl, noLoop]

theorem ofText_toText_checked_placedGate :
    ofText placedGate.toText = .ok placedGate ∧
      ofText strayChain.toText = .error (.dangling 0xFFFFFFFFFFFFFFFF (.chain 1)) := by
  have twenty : (Json.Number.float (Binary64.ofNat 20)).ReadsBack :=
    ⟨⟨false, ['2', '0'], some ['0'], none⟩, by decide +kernel, by decide +kernel⟩
  have minusZero : (Json.Number.float (-Binary64.ofNat 0)).ReadsBack :=
    ⟨⟨true, ['0'], some ['0'], none⟩, by decide +kernel, by decide +kernel⟩
  have places : placedGate.PlacesReadBack := by
    intro b mem place found
    simp only [placedGate, List.mem_cons, List.not_mem_nil, or_false] at mem
    rcases mem with rfl | rfl | rfl <;> cases found
    exact ⟨twenty, minusZero⟩
  have integers : placedGate.OnlyIntegers := by unfold OnlyIntegers; decide
  have fits : strayChain.HandlesFit := by unfold HandlesFit; decide
  constructor
  · have read := ofText_toText_checked (p := placedGate) ⟨by decide, fits.2⟩ integers places
      (by decide)
    rwa [check_placedGate] at read
  · exact ofText_toText_checked (p := strayChain) fits integers places (by decide)

end Program

end EffectFlow
