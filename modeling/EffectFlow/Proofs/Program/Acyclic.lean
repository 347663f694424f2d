import EffectFlow.Program.Json

/-!
# Programs without loops

A program that passes the check of its links is *sound* (`Program.sound_of_check`): every handle in
it points to a block, and the blocks have ranks that fall along every link.  So a walk along links
never comes back, and an induction on the rank reaches every block after those that it leads to.

The ranks come from the search for loops.  A search that finds none puts every block before the
blocks that it leads to (`Program.grounded_of_search`).  The places of handles are all looked
through for one that dangles (`Program.mem_references_iff`).
-/

namespace EffectFlow

namespace Program

variable {p : Program}

/-! ## Searching -/

theorem search_nil (path done : List Handle) : p.search path done [] = .ok done := by
  rw [search]

theorem search_of_done {path done rest : List Handle} {h : Handle} (new : h ∉ path)
    (already : h ∈ done) : p.search path done (h :: rest) = p.search path done rest := by
  rw [search, dif_neg new, if_pos already]

/-- The search goes below a block and then on, unless it finds a loop below it. -/
theorem search_cons_of_block? {path done rest : List Handle} {h : Handle} {b : Block}
    (new : h ∉ path) (fresh : h ∉ done) (there : p.block? h = some b) :
    p.search path done (h :: rest) =
      match p.search (h :: path) done b.links.reverse with
      | .error loop => .error loop
      | .ok below => p.search path (h :: below) rest := by
  rw [search, dif_neg new, if_neg fresh]
  split
  · next missing =>
    rw [there] at missing
    cases missing
  · next b' there' =>
    cases there.symm.trans there'
    rfl

/-- A block is done once all that it leads to is. -/
theorem search_of_block? {path done below rest : List Handle} {h : Handle} {b : Block}
    (new : h ∉ path) (fresh : h ∉ done) (there : p.block? h = some b)
    (inside : p.search (h :: path) done b.links.reverse = .ok below) :
    p.search path done (h :: rest) = p.search path (h :: below) rest := by
  rw [search_cons_of_block? new fresh there, inside]

/-- A loop below a block is a loop. -/
theorem search_of_loop {path done rest : List Handle} {h loop : Handle} {b : Block}
    (new : h ∉ path) (fresh : h ∉ done) (there : p.block? h = some b)
    (inside : p.search (h :: path) done b.links.reverse = .error loop) :
    p.search path done (h :: rest) = .error loop := by
  rw [search_cons_of_block? new fresh there, inside]

theorem search_of_mem {path done rest : List Handle} {h : Handle} (onPath : h ∈ path) :
    p.search path done (h :: rest) = .error h := by
  rw [search, dif_pos onPath]

/-- The blocks lead only to blocks that come after them in the list. -/
def Grounded (p : Program) : List Handle → Prop
  | [] => True
  | h :: rest =>
    (∀ b, p.block? h = some b → ∀ t ∈ b.links, (p.block? t).isSome = true → t ∈ rest) ∧
      p.Grounded rest

/-- A search without a loop adds what it searches to the blocks that are done, each block before
those that it leads to. -/
theorem grounded_of_search {path done todo found : List Handle}
    (ok : p.search path done todo = .ok found) (ground : p.Grounded done) :
    p.Grounded found ∧ done ⊆ found ∧ ∀ h ∈ todo, (p.block? h).isSome = true → h ∈ found := by
  fun_induction Program.search p path done todo generalizing found with
  | case1 path done =>
    cases ok
    exact ⟨ground, fun _ mem => mem, fun _ mem => nomatch mem⟩
  | case2 => cases ok
  | case3 path done h rest new already ih =>
    obtain ⟨grounded, kept, reached⟩ := ih ok ground
    refine ⟨grounded, kept, ?_⟩
    intro t mem there
    rcases List.mem_cons.1 mem with rfl | mem
    · exact kept already
    · exact reached t mem there
  | case4 path done h rest new fresh missing ih =>
    obtain ⟨grounded, kept, reached⟩ := ih ok ground
    refine ⟨grounded, kept, ?_⟩
    intro t mem there
    rcases List.mem_cons.1 mem with rfl | mem
    · rw [missing] at there
      cases there
    · exact reached t mem there
  | case5 => cases ok
  | case6 path done h rest new fresh b there less below inside ihInside ihRest =>
    obtain ⟨groundedBelow, keptBelow, reachedBelow⟩ := ihInside inside ground
    have ground' : p.Grounded (h :: below) := by
      refine ⟨?_, groundedBelow⟩
      intro b' there' t link exists_t
      cases there.symm.trans there'
      exact reachedBelow t (List.mem_reverse.2 link) exists_t
    obtain ⟨grounded, kept, reached⟩ := ihRest ok ground'
    refine ⟨grounded, fun t mem => kept (List.mem_cons_of_mem h (keptBelow mem)), ?_⟩
    intro t mem exists_t
    rcases List.mem_cons.1 mem with rfl | mem
    · exact kept List.mem_cons_self
    · exact reached t mem exists_t

/-! ## Ranks -/

/-- Every link of a block leads to a block of a lower rank. -/
def Ranked (p : Program) (rank : Handle → Nat) : Prop :=
  ∀ h b, p.block? h = some b → ∀ t ∈ b.links, rank t < rank h

/-- Every handle in the program points to a block. -/
structure Closed (p : Program) : Prop where
  chains : ∀ h ∈ p.chains, ∃ b, p.block? h = some b
  links : ∀ h b, p.block? h = some b → ∀ t ∈ b.links, ∃ b', p.block? t = some b'

/-- Every handle points to a block, and no block leads back to itself. -/
structure Sound (p : Program) : Prop where
  closed : p.Closed
  ranked : ∃ rank, p.Ranked rank

/-- The rank of a block is the number of blocks behind its last place in the list. -/
theorem idxOf_lt_of_grounded {done : List Handle} (ground : p.Grounded done) {h t : Handle}
    (mem : h ∈ done) {b : Block} (there : p.block? h = some b) (link : t ∈ b.links)
    (exists_t : (p.block? t).isSome = true) :
    done.reverse.idxOf t < done.reverse.idxOf h := by
  induction done with
  | nil => cases mem
  | cons x rest ih =>
    rw [List.reverse_cons, List.idxOf_append, List.idxOf_append]
    obtain ⟨first, below⟩ := ground
    by_cases old : h ∈ rest
    · have step := ih below old
      have tOld : t ∈ rest.reverse :=
        List.idxOf_lt_length_iff.1 (Nat.lt_trans step
          (List.idxOf_lt_length_iff.2 (List.mem_reverse.2 old)))
      rw [if_pos tOld, if_pos (List.mem_reverse.2 old)]
      exact step
    · rcases List.mem_cons.1 mem with rfl | mem
      · have tOld : t ∈ rest.reverse := List.mem_reverse.2 (first b there t link exists_t)
        rw [if_pos tOld, if_neg fun mem => old (List.mem_reverse.1 mem)]
        exact Nat.lt_of_lt_of_le (List.idxOf_lt_length_iff.2 tOld) (Nat.le_add_left _ _)
      · exact absurd mem old

theorem exists_block?_of_lt {h : Handle} (lt : h < p.blocks.length) : ∃ b, p.block? h = some b :=
  ⟨p.blocks[h], List.getElem?_eq_getElem lt⟩

/-- If no search finds a loop, the blocks have ranks. -/
theorem exists_ranked (closed : p.Closed) (noLoop : p.cycle? = none) : ∃ rank, p.Ranked rank := by
  rw [cycle?] at noLoop
  split at noLoop
  · cases noLoop
  · next done searched =>
    obtain ⟨ground, -, reached⟩ := grounded_of_search searched trivial
    refine ⟨fun h => done.reverse.idxOf h, ?_⟩
    intro h b there t link
    have mem : h ∈ done :=
      reached h (List.mem_range.2 (lt_of_block? there)) (Option.isSome_of_eq_some there)
    obtain ⟨b', target⟩ := closed.links h b there t link
    exact idxOf_lt_of_grounded ground mem there link (Option.isSome_of_eq_some target)

/-! ## References -/

/-- The handle stands at the place in the program. -/
inductive Refers (p : Program) (h : Handle) : Referrer → Prop
  | chain {i : Nat} (there : p.chains[i]? = some h) : p.Refers h (.chain i)
  | next {g : Handle} {b : Block} (there : p.block? g = some b) (next : b.next = some h) :
      p.Refers h (.next g)
  | slot {g : Handle} {b : Block} {name : String} (there : p.block? g = some b)
      (found : b.slots.get? name = some h) : p.Refers h (.slot g name)

theorem mem_blockReferences_iff {g h : Handle} {b : Block} {place : Referrer} :
    (h, place) ∈ blockReferences g b ↔
      b.next = some h ∧ place = .next g ∨
        ∃ name, b.slots.get? name = some h ∧ place = .slot g name := by
  rw [blockReferences, List.mem_append]
  refine or_congr ?_ ?_
  · cases b.next <;> simp [eq_comm]
  · simp only [List.mem_map, Prod.exists, Prod.mk.injEq, Dict.get?_eq_some_iff]
    constructor
    · rintro ⟨name, t, found, rfl, rfl⟩
      exact ⟨name, found, rfl⟩
    · rintro ⟨name, found, rfl⟩
      exact ⟨name, h, found, rfl, rfl⟩

/-- The references of a program are its handles, each at its place. -/
theorem mem_references_iff {h : Handle} {place : Referrer} :
    (h, place) ∈ p.references ↔ p.Refers h place := by
  rw [references, List.mem_append, List.mem_flatten]
  constructor
  · rintro (mem | ⟨inBlock, mem, found⟩)
    · obtain ⟨i, lt, eq⟩ := List.mem_mapIdx.1 mem
      cases eq
      exact .chain (List.getElem?_eq_getElem lt)
    · obtain ⟨g, lt, rfl⟩ := List.mem_mapIdx.1 mem
      have there : p.block? g = some p.blocks[g] := List.getElem?_eq_getElem lt
      rcases mem_blockReferences_iff.1 found with ⟨next, rfl⟩ | ⟨name, slot, rfl⟩
      · exact .next there next
      · exact .slot there slot
  · have ofBlock : ∀ {g : Handle} {b : Block}, p.block? g = some b →
        (h, place) ∈ blockReferences g b →
          ∃ refs ∈ p.blocks.mapIdx blockReferences, (h, place) ∈ refs := by
      intro g b there mem
      obtain ⟨lt, rfl⟩ := List.getElem?_eq_some_iff.1 there
      exact ⟨_, List.mem_mapIdx.2 ⟨g, lt, rfl⟩, mem⟩
    intro refers
    cases refers with
    | chain there =>
      obtain ⟨lt, rfl⟩ := List.getElem?_eq_some_iff.1 there
      exact .inl (List.mem_mapIdx.2 ⟨_, lt, rfl⟩)
    | next there next => exact .inr (ofBlock there (mem_blockReferences_iff.2 (.inl ⟨next, rfl⟩)))
    | slot there found =>
      exact .inr (ofBlock there (mem_blockReferences_iff.2 (.inr ⟨_, found, rfl⟩)))

/-! ## Dangling handles -/

theorem dangling?_eq_none_iff :
    p.dangling? = none ↔ ∀ h place, p.Refers h place → h < p.blocks.length := by
  rw [dangling?, List.find?_eq_none]
  constructor
  · intro none h place refers
    simpa using none (h, place) (mem_references_iff.2 refers)
  · rintro inside ⟨h, place⟩ mem
    simpa using inside h place (mem_references_iff.1 mem)

/-- A dangling handle stands in the program and points nowhere. -/
theorem of_dangling? {h : Handle} {place : Referrer} (found : p.dangling? = some (h, place)) :
    p.blocks.length ≤ h ∧ p.Refers h place := by
  have nowhere := List.find?_some found
  exact ⟨by simpa using nowhere, mem_references_iff.1 (List.mem_of_find?_eq_some found)⟩

/-- Without a dangling handle every handle points to a block. -/
theorem closed_of_dangling?_eq_none (none : p.dangling? = none) : p.Closed := by
  have inside : ∀ {h : Handle} {place : Referrer}, p.Refers h place →
      ∃ b, p.block? h = some b :=
    fun refers => exists_block?_of_lt (dangling?_eq_none_iff.1 none _ _ refers)
  constructor
  · intro h mem
    obtain ⟨i, there⟩ := List.getElem?_of_mem mem
    exact inside (.chain there)
  · intro h b there t link
    rw [Block.links, List.mem_append, Option.mem_toList, Dict.values, List.mem_map] at link
    rcases link with next | ⟨⟨name, _⟩, slot, rfl⟩
    · exact inside (.next there next)
    · exact inside (.slot there (Dict.get?_eq_some_iff.2 slot))

/-- A program that passes the check of its links is sound. -/
theorem sound_of_check (ok : p.check = .ok ()) : p.Sound := by
  rw [check] at ok
  split at ok
  · cases ok
  · next noDangling =>
    split at ok
    · cases ok
    · next noLoop =>
      have closed := closed_of_dangling?_eq_none noDangling
      exact ⟨closed, exists_ranked closed noLoop⟩

/-- A program that is read from a text passes the check of its links. -/
theorem check_of_ofText {text : String} (accepted : ofText text = .ok p) : p.check = .ok () := by
  rw [ofText] at accepted
  split at accepted
  · next read =>
    split at accepted
    · next ok =>
      cases accepted
      exact ok
    · cases accepted
  · cases accepted

end Program

end EffectFlow
