import EffectFlow.Proofs.Compile.Visits
import EffectFlow.Proofs.Program.Walks
import Mathlib.Data.List.Nodup

/-!
# Nesting of compiled programs

The *trails* of a tree lead from its root down to each of its nodes.  The trails of an outline are
those of the nodes it becomes, in the same order (`Compiler.forall₂_trailsOf`).  On a trail of a
program every block but the last is a gate whose branches the walk is in when it reaches the next
one, so no block stands on it twice (`Compiler.reaches_of_mem_trailsOf`).

So any program compiles, whatever its links are, and its gates are nested no deeper than it has
gates (`Compiler.compile_bounded`).  The gates that are cut are exactly those that the walk reaches
in their own branches (`Compiler.reaches_of_mem_skippedOf`, `Compiler.exists_skip_of_reaches`).
-/

namespace EffectFlow

/-! ## Trails and depth -/

namespace Node

mutual

/-- The trails from a node down to the nodes of its tree, for each node the one that ends at it. -/
def trails : Node → List (List Node)
  | effect id params order trigger chance => [[effect id params order trigger chance]]
  | gate type params order onPass onFail =>
    [gate type params order onPass onFail] ::
      (trailsOf onPass ++ trailsOf onFail).map (gate type params order onPass onFail :: ·)
termination_by structural node => node

/-- The trails down the trees of a list of nodes. -/
def trailsOf : List Node → List (List Node)
  | [] => []
  | node :: rest => trails node ++ trailsOf rest
termination_by structural nodes => nodes

end

mutual

/-- How deep the gates of a tree are nested. -/
def gateDepth : Node → Nat
  | effect _ _ _ _ _ => 0
  | gate _ _ _ onPass onFail => 1 + max (gateDepthOf onPass) (gateDepthOf onFail)
termination_by structural node => node

/-- How deep the gates of some trees are nested. -/
def gateDepthOf : List Node → Nat
  | [] => 0
  | node :: rest => max (gateDepth node) (gateDepthOf rest)
termination_by structural nodes => nodes

end

mutual

/-- The trails of a node lead to its nodes in preorder, each to one. -/
theorem map_getLast?_trails : ∀ n : Node, n.trails.map List.getLast? = n.preorder.map some
  | effect _ _ _ _ _ => rfl
  | gate type params order onPass onFail => by
    have below : (trailsOf onPass ++ trailsOf onFail).map List.getLast? =
        (preorderAll onPass ++ preorderAll onFail).map some := by
      rw [List.map_append, map_getLast?_trailsOf onPass, map_getLast?_trailsOf onFail,
        List.map_append]
    have last : List.getLast? ∘ (gate type params order onPass onFail :: ·) =
        (fun last => some (last.getD (gate type params order onPass onFail))) ∘ List.getLast? :=
      funext fun _ => List.getLast?_cons
    rw [trails, preorder, List.map_cons, List.map_map, last, ← List.map_map, below, List.map_map]
    rfl

/-- There is one trail for each node, and it ends there. -/
theorem map_getLast?_trailsOf : ∀ nodes : List Node,
    (trailsOf nodes).map List.getLast? = (preorderAll nodes).map some
  | [] => rfl
  | n :: rest => by
    rw [trailsOf, preorderAll, List.map_append, map_getLast?_trails n, map_getLast?_trailsOf rest,
      List.map_append]

end

end Node

namespace Compiler

mutual

/-- The trails of blocks from a part of an outline down to the blocks in it that become nodes. -/
def trails (c : Compiler) : Outline → List (List Handle)
  | .missing _ => []
  | .plain h tag => if (c.effectId? tag).isSome then [[h]] else []
  | .gate h _ _ onPass onFail => [h] :: (trailsOf c onPass ++ trailsOf c onFail).map (h :: ·)
  | .loop _ _ => []
termination_by structural outline => outline

/-- The trails of blocks down some parts of an outline. -/
def trailsOf (c : Compiler) : List Outline → List (List Handle)
  | [] => []
  | o :: rest => trails c o ++ trailsOf c rest
termination_by structural outlines => outlines

end

variable {c : Compiler} {p : Program}

/-! ## Trails of nodes and of blocks -/

mutual

/-- The trails of an outline are built into those of its node, block by block. -/
theorem forall₂_trails : ∀ {o : Outline} (start : Nat), o.Of p →
    List.Forall₂ (List.Forall₂ (c.BuiltFrom p)) (c.trails o)
      (Node.trailsOf (c.node? p start o).toList)
  | .missing h, start, _ => .nil
  | .loop h tag, start, _ => .nil
  | .plain h tag, start, ⟨b, there, tag_eq, noGate⟩ => by
    rw [trails, node?, there]
    cases known : c.effectId? tag with
    | none => exact .nil
    | some id =>
      subst tag_eq
      exact .cons (.cons (.effect there noGate (effectId?_eq_some_iff.1 known)) .nil) .nil
  | .gate h tag type onPass onFail, start, ⟨⟨b, there, tag_eq, isGate⟩, ofPass, ofFail⟩ => by
    have pass := forall₂_trailsOf (start + 1) ofPass
    have fail := forall₂_trailsOf (start + 1 + c.outlineSizes onPass) ofFail
    subst tag_eq
    rw [trails, node?, there]
    show List.Forall₂ _ _ (Node.trails _ ++ [])
    rw [List.append_nil, Node.trails]
    have built : c.BuiltFrom p h (.gate type (c.blockParams b) (UInt32.ofNat start)
        (c.nodes p (start + 1) onPass) (c.nodes p (start + 1 + c.outlineSizes onPass) onFail)) :=
      .gate there isGate
    refine .cons (.cons built .nil) ?_
    rw [List.forall₂_map_left_iff, List.forall₂_map_right_iff]
    exact (List.rel_append pass fail).imp fun _ _ below => .cons built below

/-- The nodes on every trail are built from the blocks on the trail of the outline. -/
theorem forall₂_trailsOf : ∀ {os : List Outline} (start : Nat), Outline.AllOf p os →
    List.Forall₂ (List.Forall₂ (c.BuiltFrom p)) (c.trailsOf os)
      (Node.trailsOf (c.nodes p start os))
  | [], start, _ => .nil
  | o :: rest, start, ⟨ofHead, ofRest⟩ => by
    have head := forall₂_trails start ofHead
    rw [trailsOf, nodes]
    cases made : c.node? p start o with
    | none =>
      rw [made] at head
      exact List.rel_append head (forall₂_trailsOf start ofRest)
    | some n =>
      rw [made, Option.toList_some, Node.trailsOf, Node.trailsOf, List.append_nil] at head
      exact List.rel_append head (forall₂_trailsOf (start + c.outlineSize o) ofRest)

end

/-! ## What stands on a trail -/

mutual

/-- Behind the gates around it, a trail enters gates and ends at a block that is none of them. -/
theorem reaches_of_mem_trails : ∀ {o : Outline} {gates trail : List Handle}, o.Reached p gates →
    trail ∈ c.trails o →
      ∃ inner h, gates.reverse ++ trail = (h :: inner).reverse ∧ p.Reaches inner h ∧ h ∉ inner
  | .missing h, _, _, _, mem => nomatch mem
  | .loop h tag, _, _, _, mem => nomatch mem
  | .plain h tag, gates, trail, ⟨reached, outside⟩, mem => by
    rw [trails] at mem
    split at mem
    · rw [List.mem_singleton.1 mem]
      exact ⟨gates, h, List.reverse_cons.symm, reached, outside⟩
    · cases mem
  | .gate h tag type onPass onFail, gates, trail, ⟨⟨reached, outside⟩, inPass, inFail⟩, mem => by
    rw [trails] at mem
    rcases List.mem_cons.1 mem with rfl | mem
    · exact ⟨gates, h, List.reverse_cons.symm, reached, outside⟩
    · obtain ⟨below, inside, rfl⟩ := List.mem_map.1 mem
      rw [List.append_cons, ← List.reverse_cons]
      rcases List.mem_append.1 inside with inside | inside
      · exact reaches_of_mem_trailsOf inPass inside
      · exact reaches_of_mem_trailsOf inFail inside

/-- A trail leads through the gates whose branches the walk is in when it reaches its last block. -/
theorem reaches_of_mem_trailsOf : ∀ {os : List Outline} {gates trail : List Handle},
    Outline.AllReached p gates os → trail ∈ c.trailsOf os →
      ∃ inner h, gates.reverse ++ trail = (h :: inner).reverse ∧ p.Reaches inner h ∧ h ∉ inner
  | [], _, _, _, mem => nomatch mem
  | o :: rest, _, _, ⟨inHead, inRest⟩, mem => by
    rw [trailsOf, List.mem_append] at mem
    rcases mem with mem | mem
    · exact reaches_of_mem_trails inHead mem
    · exact reaches_of_mem_trailsOf inRest mem

end

mutual

/-- Together with the gates around it, a node has no more gates inside each other than the program
has. -/
theorem gateDepth_node?_le : ∀ {o : Outline} {gates : List Handle} (start : Nat), o.Of p →
    o.Reached p gates → gates.length ≤ p.gateCount →
      ∀ n ∈ c.node? p start o, gates.length + n.gateDepth ≤ p.gateCount
  | .missing h, _, _, _, _, _, n, made => nomatch made
  | .loop h tag, _, _, _, _, _, n, made => nomatch made
  | .plain h tag, gates, start, ⟨b, there, _⟩, _, few, n, made => by
    rw [node?, there] at made
    cases known : c.effectId? tag with
    | none =>
      rw [known] at made
      cases made
    | some id =>
      rw [known] at made
      cases made
      exact few
  | .gate h tag type onPass onFail, gates, start, ⟨⟨b, there, tag_eq, isGate⟩, ofPass, ofFail⟩,
      ⟨⟨reached, outside⟩, inPass, inFail⟩, few, n, made => by
    have inside : (h :: gates).length ≤ p.gateCount := by
      refine Program.length_le_gateCount (List.nodup_cons.2 ⟨outside, reached.nodup⟩) ?_
      rw [List.forall_mem_cons]
      refine ⟨?_, fun g mem => reached.isGateAt_of_mem mem⟩
      rw [Program.isGateAt_of_block? there, Program.isGateTag, tag_eq, isGate, Option.isSome_some]
    have pass := gateDepthOf_nodes_le (start + 1) ofPass inPass inside
    have fail := gateDepthOf_nodes_le (start + 1 + c.outlineSizes onPass) ofFail inFail inside
    cases made
    rw [Node.gateDepth]
    rw [List.length_cons] at pass fail
    omega

/-- Inside some gates a program nests no more gates than it has left. -/
theorem gateDepthOf_nodes_le : ∀ {os : List Outline} {gates : List Handle} (start : Nat),
    Outline.AllOf p os → Outline.AllReached p gates os → gates.length ≤ p.gateCount →
      gates.length + Node.gateDepthOf (c.nodes p start os) ≤ p.gateCount
  | [], _, _, _, _, few => few
  | o :: rest, gates, start, ⟨ofHead, ofRest⟩, ⟨inHead, inRest⟩, few => by
    have head := gateDepth_node?_le start ofHead inHead few
    rw [nodes]
    cases made : c.node? p start o with
    | none => exact gateDepthOf_nodes_le start ofRest inRest few
    | some n =>
      have first := head n made
      have later := gateDepthOf_nodes_le (start + c.outlineSize o) ofRest inRest few
      show gates.length + max n.gateDepth _ ≤ _
      omega

end

/-! ## Gates that are cut -/

mutual

/-- A gate that is cut off as a cycle was reached inside itself. -/
theorem reaches_of_mem_skipped : ∀ {o : Outline} {gates : List Handle} {s : Skip},
    o.Reached p gates → s ∈ c.skipped o → s.cause = .cycle →
      ∃ inner, p.Reaches inner s.block ∧ s.block ∈ inner
  | .missing h, _, s, _, mem, cut => by
    rw [List.mem_singleton.1 mem] at cut
    cases cut
  | .plain h tag, _, s, _, mem, cut => by
    rw [skipped] at mem
    split at mem
    · cases mem
    · rw [List.mem_singleton.1 mem] at cut
      cases cut
  | .gate h tag type onPass onFail, _, s, ⟨_, inPass, inFail⟩, mem, cut => by
    rcases List.mem_append.1 mem with mem | mem
    · exact reaches_of_mem_skippedOf inPass mem cut
    · exact reaches_of_mem_skippedOf inFail mem cut
  | .loop h tag, gates, s, ⟨reached, inside⟩, mem, _ => by
    rw [List.mem_singleton.1 mem]
    exact ⟨gates, reached, inside⟩

/-- A gate that is cut is one that the walk reaches in its own branches. -/
theorem reaches_of_mem_skippedOf : ∀ {os : List Outline} {gates : List Handle} {s : Skip},
    Outline.AllReached p gates os → s ∈ c.skippedOf os → s.cause = .cycle →
      ∃ inner, p.Reaches inner s.block ∧ s.block ∈ inner
  | [], _, _, _, mem, _ => nomatch mem
  | o :: rest, _, s, ⟨inHead, inRest⟩, mem, cut => by
    rcases List.mem_append.1 mem with mem | mem
    · exact reaches_of_mem_skipped inHead mem cut
    · exact reaches_of_mem_skippedOf inRest mem cut

end

theorem mem_skippedOf_iff {os : List Outline} {s : Skip} :
    s ∈ c.skippedOf os ↔ ∃ o ∈ os, s ∈ c.skipped o := by
  induction os with
  | nil => simp [skippedOf]
  | cons o rest ih => simp [skippedOf, ih]

/-- What is skipped on a chain that is entered is skipped in the program. -/
theorem mem_skipped_of_enters {gates : List Handle} {start : Handle} {s : Skip}
    (entered : p.Enters gates start)
    (mem : s ∈ c.skippedOf (p.outlineWithin gates (p.chain start))) :
    s ∈ (c.compile p).skipped := by
  induction entered with
  | @head start chain =>
    obtain ⟨o, found, skip⟩ := mem_skippedOf_iff.1 mem
    exact mem_skippedOf_iff.2 ⟨o, List.mem_flatMap.2 ⟨start, chain, found⟩, skip⟩
  | @slot gates start g h b type branch entered on there isGate outside link ih =>
    have gate : Outline.gate g b.tag type (p.branchOutline (g :: gates) b .onPass)
        (p.branchOutline (g :: gates) b .onFail) ∈ p.outlineWithin gates (p.chain start) := by
      refine Program.mem_outlineWithin_of_mem on ?_
      rw [Program.outlineWithin_cons_gate there isGate outside]
      exact List.mem_cons_self
    have inBranch : s ∈ c.skippedOf (p.branchOutline (g :: gates) b branch) := by
      rw [Program.branchOutline_eq, link]
      exact mem
    refine ih (mem_skippedOf_iff.2 ⟨_, gate, ?_⟩)
    rw [skipped, List.mem_append]
    cases branch with
    | onPass => exact .inl inBranch
    | onFail => exact .inr inBranch

/-- A gate that the walk reaches in its own branches is cut. -/
theorem exists_skip_of_reaches {gates : List Handle} {h : Handle} (reached : p.Reaches gates h)
    (inside : h ∈ gates) : ∃ s ∈ (c.compile p).skipped, s.cause = .cycle ∧ s.block = h := by
  obtain ⟨start, entered, on⟩ := reached.exists_enters
  have gate := reached.isGateAt_of_mem inside
  cases there : p.block? h with
  | none => simp [Program.isGateAt, Program.tag?, there] at gate
  | some b =>
    rw [Program.isGateAt_of_block? there, Program.isGateTag, Option.isSome_iff_exists] at gate
    obtain ⟨type, isGate⟩ := gate
    have loop : Outline.loop h b.tag ∈ p.outlineWithin gates (p.chain start) := by
      refine Program.mem_outlineWithin_of_mem on ?_
      rw [Program.outlineWithin_cons_loop there isGate inside]
      exact List.mem_cons_self
    refine ⟨⟨h, some b.tag, .cycle⟩, mem_skipped_of_enters entered ?_, rfl, rfl⟩
    exact mem_skippedOf_iff.2 ⟨_, loop, List.mem_cons_self⟩

/-! ## Any program -/

/-- Whatever the links of a program are, the walk along each chain ends, with the outline of the
chain as its only result.  The gates that it is in are different ones, and so no more than the gates
of the program.  On the trails of the compiled tree no block is the origin of two nodes, and the
gates are nested no deeper than the program has gates.  What is skipped as a cycle are the gates
that the walk reaches in their own branches, all of them and no others. -/
theorem compile_bounded (c : Compiler) (p : Program) :
    (∀ head os, p.Walks [] [] (some head) os ↔ os = p.outlineOf head) ∧
      (∀ gates h, p.Reaches gates h → gates.Nodup ∧ gates.length ≤ p.gateCount) ∧
      List.Forall₂ (List.Forall₂ (c.BuiltFrom p)) (c.trailsOf p.outline)
        (Node.trailsOf (c.compile p).nodes) ∧
      (∀ trail ∈ c.trailsOf p.outline,
        trail.Nodup ∧ ∃ gates h, trail = (h :: gates).reverse ∧ p.Reaches gates h) ∧
      Node.gateDepthOf (c.compile p).nodes ≤ p.gateCount ∧
      (∀ s ∈ (c.compile p).skipped, s.cause = .cycle →
        p.isGateAt s.block = true ∧ ∃ gates, p.Reaches gates s.block ∧ s.block ∈ gates) ∧
      ∀ gates h, p.Reaches gates h → h ∈ gates →
        ∃ s ∈ (c.compile p).skipped, s.cause = .cycle ∧ s.block = h := by
  have parts := p.allReached_outline
  refine ⟨fun head os => Program.walks_iff, fun gates h reached => ⟨reached.nodup,
    reached.length_le⟩, forall₂_trailsOf 0 p.allOf_outline, fun trail mem => ?_, ?_,
    fun s mem cut => ?_, fun gates h reached inside => exists_skip_of_reaches reached inside⟩
  · obtain ⟨gates, h, trail_eq, reached, outside⟩ := reaches_of_mem_trailsOf parts mem
    rw [List.reverse_nil, List.nil_append] at trail_eq
    rw [trail_eq, List.nodup_reverse, List.nodup_cons]
    exact ⟨⟨outside, reached.nodup⟩, gates, h, rfl, reached⟩
  · have deep := gateDepthOf_nodes_le (c := c) 0 p.allOf_outline parts (Nat.zero_le _)
    rwa [List.length_nil, Nat.zero_add] at deep
  · obtain ⟨gates, reached, inside⟩ := reaches_of_mem_skippedOf parts mem cut
    exact ⟨reached.isGateAt_of_mem inside, gates, reached, inside⟩

/-- A gate with the first block of a program in its slot on pass. -/
def selfGate : Block := { tag := "gate_chance", slots := Dict.ofList [("onPass", 0)] }

/-- A gate whose slot on pass is the gate itself. -/
def selfSlot : Program where
  blocks := [selfGate]
  chains := [0]

/-- The gate becomes one node, and is cut where the walk reaches it in its own branch. -/
theorem compile_bounded_selfSlot :
    (compile { registry := .empty } selfSlot).skipped = [⟨0, some "gate_chance", .cycle⟩] ∧
      Node.gateDepthOf (compile { registry := .empty } selfSlot).nodes ≤ 1 ∧
      ∃ gates, selfSlot.Reaches gates 0 ∧ 0 ∈ gates := by
  obtain ⟨walks, -, -, -, deep, cut, -⟩ := compile_bounded { registry := .empty } selfSlot
  have there : selfSlot.block? 0 = some selfGate := rfl
  have isGate : GateKind.ofTag? selfGate.tag = some .chance := rfl
  have walk : selfSlot.Walks [] [] (some 0)
      [.gate 0 selfGate.tag .chance [.loop 0 selfGate.tag] []] :=
    .gate List.not_mem_nil there isGate List.not_mem_nil
      (.loop List.not_mem_nil there isGate List.mem_cons_self .stop) .stop .stop
  have outline : selfSlot.outline =
      [.gate 0 selfGate.tag .chance [.loop 0 selfGate.tag] []] := by
    show selfSlot.outlineOf 0 ++ [] = _
    rw [List.append_nil, ← (walks 0 _).1 walk]
  have skipped : (compile { registry := .empty } selfSlot).skipped =
      [⟨0, some "gate_chance", .cycle⟩] := by
    show skippedOf _ selfSlot.outline = _
    rw [outline]
    rfl
  have reached := (cut ⟨0, some "gate_chance", .cycle⟩ (by rw [skipped]; exact List.mem_cons_self)
    rfl).2
  exact ⟨skipped, deep, reached⟩

end Compiler

end EffectFlow
