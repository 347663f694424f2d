import EffectFlow.Compile.Compilation
import EffectFlow.Proofs.Program.Walks

/-!
# Renaming the blocks of a program

A map of handles *renames* a program into another one if it takes each block to one with the same
tag, the same fields and the renamed links (`Program.Renames`).  The other program may have blocks
that are no such image, and its blocks may differ in their places and in slots that are no branches.

Renaming takes the steps of a walk to steps of a walk (`Program.Walks.rename`), so it takes the
outline to the outline (`Program.Renames.outline`).  Compilers that take the same from every block
(`Compiler.Alike`) make the same nodes of it (`Compiler.Alike.compile_eq`), so nothing in a
compilation but its lists of handles shows which program was compiled (`Compiler.compile_renames`).
-/

namespace EffectFlow

/-! ## Renamed programs -/

/-- The blocks have one tag and the same fields, and the links of the second are renamed ones. -/
structure Block.Renames (f : Handle → Handle) (b b' : Block) : Prop where
  tag : b'.tag = b.tag
  fields : b'.fields = b.fields
  next : b'.next = b.next.map f
  branches : ∀ branch : Branch, b'.slots.get? branch.key = (b.slots.get? branch.key).map f

namespace Program

/-- The map takes the blocks of the first program to blocks of the second that differ in the handles
of their links, different handles to different ones, and handles that point nowhere to such. -/
structure Renames (f : Handle → Handle) (p q : Program) : Prop where
  injective : Function.Injective f
  block : ∀ h b, p.block? h = some b → ∃ b', q.block? (f h) = some b' ∧ b.Renames f b'
  missing : ∀ h, p.block? h = none → q.block? (f h) = none
  chains : q.chains = p.chains.map f

/-- Every program is a renamed one of itself. -/
theorem Renames.refl (p : Program) : p.Renames id p where
  injective := Function.injective_id
  block := fun _ b there =>
    ⟨b, there, rfl, rfl, Option.map_id_apply.symm, fun _ => Option.map_id_apply.symm⟩
  missing := fun _ nothing => nothing
  chains := (List.map_id _).symm

end Program

namespace Outline

mutual

/-- The outline with other handles. -/
def rename (f : Handle → Handle) : Outline → Outline
  | missing h => missing (f h)
  | plain h tag => plain (f h) tag
  | gate h tag type onPass onFail =>
    gate (f h) tag type (renameAll f onPass) (renameAll f onFail)
  | loop h tag => loop (f h) tag
termination_by structural outline => outline

/-- The outlines with other handles. -/
def renameAll (f : Handle → Handle) : List Outline → List Outline
  | [] => []
  | o :: rest => rename f o :: renameAll f rest
termination_by structural outlines => outlines

end

theorem renameAll_append (f : Handle → Handle) (front back : List Outline) :
    renameAll f (front ++ back) = renameAll f front ++ renameAll f back := by
  induction front with
  | nil => rfl
  | cons o rest ih => rw [List.cons_append, renameAll, renameAll, ih, List.cons_append]

end Outline

/-! ## Walks -/

namespace Program

variable {f : Handle → Handle} {p q : Program}

theorem Renames.next? (renames : p.Renames f q) (h : Handle) :
    q.next? (f h) = (p.next? h).map f := by
  rw [Program.next?, Program.next?]
  cases there : p.block? h with
  | none => rw [renames.missing h there]; rfl
  | some b =>
    obtain ⟨b', there', same⟩ := renames.block h b there
    rw [there']
    exact same.next

/-- The steps of a walk are those of a walk through the renamed program. -/
theorem Walks.rename (renames : p.Renames f q) {gates seen : List Handle} {start : Option Handle}
    {os : List Outline} (walk : p.Walks gates seen start os) :
    q.Walks (gates.map f) (seen.map f) (start.map f) (Outline.renameAll f os) := by
  have mem_iff {h : Handle} {handles : List Handle} : f h ∈ handles.map f ↔ h ∈ handles :=
    List.mem_map_of_injective renames.injective
  induction walk with
  | stop => exact .stop
  | again old => exact .again (mem_iff.2 old)
  | missing new nothing _ ih =>
    rw [← renames.next?] at ih
    exact .missing (mt mem_iff.1 new) (renames.missing _ nothing) ih
  | plain new there noGate _ ih =>
    obtain ⟨b', there', same⟩ := renames.block _ _ there
    rw [← renames.next?] at ih
    rw [Outline.renameAll, Outline.rename, ← same.tag]
    rw [← same.tag] at noGate
    exact .plain (mt mem_iff.1 new) there' noGate ih
  | loop new there isGate inside _ ih =>
    obtain ⟨b', there', same⟩ := renames.block _ _ there
    rw [← renames.next?] at ih
    rw [Outline.renameAll, Outline.rename, ← same.tag]
    rw [← same.tag] at isGate
    exact .loop (mt mem_iff.1 new) there' isGate (mem_iff.2 inside) ih
  | gate new there isGate outside _ _ _ ihPass ihFail ih =>
    obtain ⟨b', there', same⟩ := renames.block _ _ there
    rw [← renames.next?] at ih
    rw [← same.branches] at ihPass ihFail
    rw [Outline.renameAll, Outline.rename, ← same.tag]
    rw [← same.tag] at isGate
    exact .gate (mt mem_iff.1 new) there' isGate (mt mem_iff.1 outside) ihPass ihFail ih

/-- The outline of a chain is renamed with its head. -/
theorem Renames.outlineOf (renames : p.Renames f q) (head : Handle) :
    q.outlineOf (f head) = Outline.renameAll f (p.outlineOf head) :=
  ((walks_outlineWithin [] [] (some head)).rename renames).eq_outlineWithin.symm

/-- The outline of the renamed program is the renamed outline. -/
theorem Renames.outline (renames : p.Renames f q) :
    q.outline = Outline.renameAll f p.outline := by
  rw [Program.outline, Program.outline, renames.chains, List.flatMap_map]
  generalize p.chains = heads
  induction heads with
  | nil => rfl
  | cons head rest ih =>
    rw [List.flatMap_cons, List.flatMap_cons, ih, renames.outlineOf, Outline.renameAll_append]

end Program

/-! ## Compilations -/

/-- The skipped block under another handle. -/
def Skip.rename (f : Handle → Handle) (s : Skip) : Skip := { s with block := f s.block }

theorem Skip.rename_id : Skip.rename id = id := rfl

namespace Compiler

/-- The compilers take the same from every block. -/
structure Alike (c c' : Compiler) : Prop where
  effectId? : ∀ tag, c'.effectId? tag = c.effectId? tag
  isPlaceholder : ∀ tag, c'.isPlaceholder tag = c.isPlaceholder tag
  blockParams : ∀ b, c'.blockParams b = c.blockParams b

variable {c c' : Compiler} {f : Handle → Handle} {p q : Program}

theorem Alike.refl (c : Compiler) : c.Alike c := ⟨fun _ => rfl, fun _ => rfl, fun _ => rfl⟩

/-- What is taken from a block depends on its tag and its fields only. -/
theorem Alike.of_renames (alike : c.Alike c') {b b' : Block} (same : b.Renames f b') :
    c'.blockParams b' = c.blockParams b ∧ blockTrigger? b' = blockTrigger? b ∧
      blockChance b' = blockChance b := by
  rw [← alike.blockParams, Compiler.blockParams, Compiler.blockParams, writtenFields,
    writtenFields, blockTrigger?, blockTrigger?, blockChance, blockChance, same.tag, same.fields]
  exact ⟨rfl, rfl, rfl⟩

mutual

/-- A renamed outline becomes as many nodes. -/
theorem Alike.outlineSize_rename (alike : c.Alike c') : ∀ o : Outline,
    c'.outlineSize (o.rename f) = c.outlineSize o
  | .missing _ | .loop _ _ => rfl
  | .plain _ tag => by
    rw [Outline.rename, outlineSize, outlineSize, alike.effectId? tag]
  | .gate _ _ _ onPass onFail => by
    rw [Outline.rename, outlineSize, outlineSize, alike.outlineSizes_renameAll onPass,
      alike.outlineSizes_renameAll onFail]

theorem Alike.outlineSizes_renameAll (alike : c.Alike c') : ∀ os : List Outline,
    c'.outlineSizes (Outline.renameAll f os) = c.outlineSizes os
  | [] => rfl
  | o :: rest => by
    rw [Outline.renameAll, outlineSizes, outlineSizes, alike.outlineSize_rename o,
      alike.outlineSizes_renameAll rest]

end

mutual

/-- A renamed outline becomes the same node. -/
theorem Alike.node?_rename (alike : c.Alike c') (renames : p.Renames f q) :
    ∀ (start : Nat) (o : Outline), c'.node? q start (o.rename f) = c.node? p start o
  | _, .missing _ | _, .loop _ _ => rfl
  | start, .plain h tag => by
    rw [Outline.rename, node?, node?, alike.effectId? tag]
    cases there : p.block? h with
    | none => rw [renames.missing h there]
    | some b =>
      obtain ⟨b', there', same⟩ := renames.block h b there
      obtain ⟨params, trigger, chance⟩ := alike.of_renames same
      rw [there']
      cases c.effectId? tag with
      | none => rfl
      | some id =>
        show some (Node.effect _ _ _ _ _) = _
        rw [params, trigger, chance]
  | start, .gate h tag type onPass onFail => by
    rw [Outline.rename, node?, node?, alike.nodes_renameAll renames (start + 1) onPass,
      alike.nodes_renameAll renames _ onFail, alike.outlineSizes_renameAll]
    cases there : p.block? h with
    | none => rw [renames.missing h there]
    | some b =>
      obtain ⟨b', there', same⟩ := renames.block h b there
      simp only [there', (alike.of_renames same).1]

/-- The renamed outline becomes the same nodes. -/
theorem Alike.nodes_renameAll (alike : c.Alike c') (renames : p.Renames f q) :
    ∀ (start : Nat) (os : List Outline),
      c'.nodes q start (Outline.renameAll f os) = c.nodes p start os
  | _, [] => rfl
  | start, o :: rest => by
    rw [Outline.renameAll, nodes, nodes, alike.node?_rename renames start o,
      alike.outlineSize_rename, alike.nodes_renameAll renames _ rest,
      alike.nodes_renameAll renames _ rest]

end

mutual

/-- The same blocks are skipped under their new names. -/
theorem Alike.skipped_rename (alike : c.Alike c') : ∀ o : Outline,
    c'.skipped (o.rename f) = (c.skipped o).map (Skip.rename f)
  | .missing _ | .loop _ _ => rfl
  | .plain h tag => by
    rw [Outline.rename, skipped, skipped, alike.effectId? tag]
    split <;> rfl
  | .gate _ _ _ onPass onFail => by
    rw [Outline.rename, skipped, skipped, alike.skippedOf_renameAll onPass,
      alike.skippedOf_renameAll onFail, List.map_append]

theorem Alike.skippedOf_renameAll (alike : c.Alike c') : ∀ os : List Outline,
    c'.skippedOf (Outline.renameAll f os) = (c.skippedOf os).map (Skip.rename f)
  | [] => rfl
  | o :: rest => by
    rw [Outline.renameAll, skippedOf, skippedOf, alike.skipped_rename o,
      alike.skippedOf_renameAll rest, List.map_append]

end

mutual

/-- The same blocks are written with the placeholder, under their new names. -/
theorem Alike.placeholders_rename (alike : c.Alike c') : ∀ o : Outline,
    c'.placeholders (o.rename f) = (c.placeholders o).map f
  | .missing _ | .loop _ _ => rfl
  | .plain h tag => by
    rw [Outline.rename, placeholders, placeholders, alike.isPlaceholder tag]
    split <;> rfl
  | .gate _ _ _ onPass onFail => by
    rw [Outline.rename, placeholders, placeholders, alike.placeholdersOf_renameAll onPass,
      alike.placeholdersOf_renameAll onFail, List.map_append]

theorem Alike.placeholdersOf_renameAll (alike : c.Alike c') : ∀ os : List Outline,
    c'.placeholdersOf (Outline.renameAll f os) = (c.placeholdersOf os).map f
  | [] => rfl
  | o :: rest => by
    rw [Outline.renameAll, placeholdersOf, placeholdersOf, alike.placeholders_rename o,
      alike.placeholdersOf_renameAll rest, List.map_append]

end

/-- Alike compilers compile a program and a renamed one to the same, but for the handles. -/
theorem Alike.compile_eq (alike : c.Alike c') (renames : p.Renames f q) :
    c'.compile q = {
      nodes := (c.compile p).nodes
      skipped := (c.compile p).skipped.map (Skip.rename f)
      placeholders := (c.compile p).placeholders.map f } := by
  rw [compile, renames.outline, alike.nodes_renameAll renames, alike.skippedOf_renameAll,
    alike.placeholdersOf_renameAll]
  rfl

/-- Compiling does not depend on which handles the blocks have, nor on blocks that are not reached,
places on the canvas and slots that are no branches: a renamed program has the same document and the
same nodes, and what is listed by handle is renamed. -/
theorem compile_renames (c : Compiler) (renames : p.Renames f q) :
    c.document q = c.document p ∧ (c.compile q).nodes = (c.compile p).nodes ∧
      (c.compile q).skipped = (c.compile p).skipped.map (Skip.rename f) ∧
      (c.compile q).placeholders = (c.compile p).placeholders.map f := by
  have compiled := (Alike.refl c).compile_eq renames
  rw [document, document, Compilation.document, Compilation.document, compiled]
  exact ⟨rfl, rfl, rfl, rfl⟩

/-- A gate that is its own branch, on a chain that leads back to it, and a head that is missing. -/
def tangled : Program where
  blocks := [
    { tag := "gate_chance", slots := Dict.ofList [("onPass", 0), ("onFail", 2)], next := some 1 },
    { tag := "effect_summon", next := some 2 },
    { tag := "note", next := some 0 }]
  chains := [0, 7]

/-- The same behind a block that leads to nothing, with a slot more. -/
def shifted : Program where
  blocks := [
    { tag := "effect_heal", next := some 5 },
    { tag := "gate_chance"
      slots := Dict.ofList [("aside", 0), ("onPass", 1), ("onFail", 3)]
      next := some 2 },
    { tag := "effect_summon", next := some 3 },
    { tag := "note", next := some 1 }]
  chains := [1, 8]

theorem compile_renames_shifted :
    tangled.Renames (· + 1) shifted ∧
      document { registry := .empty } shifted = document { registry := .empty } tangled ∧
      (compile { registry := .empty } shifted).placeholders =
        (compile { registry := .empty } tangled).placeholders.map (· + 1) := by
  have branches {b b' : Block}
      (pass : b'.slots.get? "onPass" = (b.slots.get? "onPass").map (· + 1))
      (fail : b'.slots.get? "onFail" = (b.slots.get? "onFail").map (· + 1)) :
      ∀ branch : Branch, b'.slots.get? branch.key = (b.slots.get? branch.key).map (· + 1) :=
    fun | .onPass => pass | .onFail => fail
  have renames : tangled.Renames (· + 1) shifted := by
    refine ⟨fun _ _ => Nat.succ.inj, ?block, ?missing, rfl⟩
    case block =>
      intro h b there
      match h, there with
      | 0, rfl => exact ⟨_, rfl, rfl, rfl, rfl, branches (by decide) (by decide)⟩
      | 1, rfl => exact ⟨_, rfl, rfl, rfl, rfl, branches (by decide) (by decide)⟩
      | 2, rfl => exact ⟨_, rfl, rfl, rfl, rfl, branches (by decide) (by decide)⟩
    case missing =>
      intro h nothing
      have past : 3 ≤ h := List.getElem?_eq_none_iff.1 nothing
      exact List.getElem?_eq_none (Nat.succ_le_succ past)
  obtain ⟨document, -, -, placeholders⟩ := compile_renames { registry := .empty } renames
  exact ⟨renames, document, placeholders⟩

end Compiler

end EffectFlow
