import EffectFlow.Gate
import EffectFlow.Proofs.Registry.Index

/-!
# Tags and numbers

What is found through the index of a registry are its effects (`Registry.effect?_eq_some_iff`,
`Registry.effectOfTag?_eq_some_iff`).  The tags and the numbers of effects belong together:
`Registry.resolve` and `Registry.tag?` undo each other (`Registry.resolve_eq_found_iff`).  No tag of
an effect is one of a gate (`Registry.ofTag?_eq_none_of_tag?`).
-/

namespace EffectFlow

section Keys

variable {α κ : Type} [BEq κ] [LawfulBEq κ] {key : α → κ} {xs : List α}

/-- Where no key stands twice, what is found under a key is all that has it. -/
theorem filter_key_eq (distinct : (xs.map key).Nodup) (k : κ) :
    xs.filter (key · == k) = (xs.find? (key · == k)).toList := by
  induction xs with
  | nil => rfl
  | cons x rest ih =>
    rw [List.map_cons, List.nodup_cons] at distinct
    rw [List.filter_cons, List.find?_cons]
    cases same : key x == k with
    | false => exact ih distinct.2
    | true =>
      have noLater : rest.filter (key · == k) = [] := by
        refine List.filter_eq_nil_iff.2 fun y mem again => distinct.1 ?_
        rw [beq_iff_eq.1 same, ← beq_iff_eq.1 again]
        exact List.mem_map_of_mem mem
      rw [noLater]
      rfl

/-- With distinct keys the first member of a key is the only one that has it. -/
theorem find?_key_eq_some_iff (distinct : (xs.map key).Nodup) {k : κ} {x : α} :
    xs.find? (key · == k) = some x ↔ x ∈ xs ∧ key x = k := by
  rw [← Option.mem_toList, ← filter_key_eq distinct, List.mem_filter, beq_iff_eq]

end Keys

namespace Registry

variable {r : Registry}

/-- The installed effects have positive numbers, all distinct, and distinct names. -/
theorem effects_sound (r : Registry) :
    (∀ d ∈ r.effects, d.id ≠ 0) ∧ (r.effects.map (·.id)).Nodup ∧
      (r.effects.map (·.lowerName)).Nodup := by
  rw [effects]
  split
  · next s found =>
    have sound := r.sound s found
    exact ⟨sound.id_ne_zero, sound.ids_nodup, sound.names_nodup⟩
  · exact ⟨fun d mem => absurd mem List.not_mem_nil, List.nodup_nil, List.nodup_nil⟩

/-- The effect of a number is the installed one that has it. -/
theorem effect?_eq_some_iff {id : UInt32} {d : Effect} :
    r.effect? id = some d ↔ d ∈ r.effects ∧ d.id = id := by
  rw [effect?, Option.bind_eq_some_iff]
  constructor
  · rintro ⟨place, found, there⟩
    obtain ⟨e, there', id_eq⟩ := r.holds_index.place?_iff.1 found
    cases there.symm.trans there'
    exact ⟨List.mem_of_getElem? there, id_eq⟩
  · rintro ⟨mem, id_eq⟩
    obtain ⟨place, there⟩ := List.mem_iff_getElem?.1 mem
    exact ⟨place, r.holds_index.place?_iff.2 ⟨d, there, id_eq⟩, there⟩

/-- Effects of one number are the same. -/
theorem eq_of_mem_of_id {d e : Effect} (dMem : d ∈ r.effects) (eMem : e ∈ r.effects)
    (same : d.id = e.id) : d = e :=
  Option.some.inj ((effect?_eq_some_iff.2 ⟨dMem, same⟩).symm.trans
    (effect?_eq_some_iff.2 ⟨eMem, rfl⟩))

/-- The effect of a tag is the installed one that has it. -/
theorem effectOfTag?_eq_some_iff {tag : String} {d : Effect} :
    r.effectOfTag? tag = some d ↔ d ∈ r.effects ∧ d.tag = tag := by
  rw [effectOfTag?, Option.bind_eq_some_iff]
  constructor
  · rintro ⟨id, found, known⟩
    obtain ⟨e, eMem, id_eq, tag_eq⟩ := r.holds_index.id?_iff.1 found
    obtain ⟨mem, rfl⟩ := effect?_eq_some_iff.1 known
    rw [eq_of_mem_of_id mem eMem id_eq.symm]
    exact ⟨eMem, tag_eq⟩
  · rintro ⟨mem, tag_eq⟩
    exact ⟨d.id, r.holds_index.id?_iff.2 ⟨d, mem, rfl, tag_eq⟩, effect?_eq_some_iff.2 ⟨mem, rfl⟩⟩

theorem effectOfTag?_eq_none_iff {tag : String} :
    r.effectOfTag? tag = none ↔ ∀ d ∈ r.effects, d.tag ≠ tag := by
  rw [Option.eq_none_iff_forall_ne_some]
  exact ⟨fun unknown d mem tag_eq => unknown d (effectOfTag?_eq_some_iff.2 ⟨mem, tag_eq⟩),
    fun unknown d known => (effectOfTag?_eq_some_iff.1 known).elim (unknown d)⟩

/-- The index of numbers by tag agrees with the effects themselves. -/
theorem resolve_eq (r : Registry) (tag : String) :
    r.resolve tag =
      if r.isReady then
        match r.effectOfTag? tag with
        | some d => .found d.id
        | none => .unknown
      else .notLoaded := by
  rw [resolve]
  congr 1
  cases found : r.index.id? tag with
  | none =>
    rw [effectOfTag?, found]
    rfl
  | some id =>
    obtain ⟨d, mem, rfl, tag_eq⟩ := r.holds_index.id?_iff.1 found
    rw [effectOfTag?_eq_some_iff.2 ⟨mem, tag_eq⟩]

theorem isReady_eq_false_iff : r.isReady = false ↔ r.effects = [] := by
  rw [isReady, Bool.not_eq_false', List.isEmpty_iff]

theorem isReady_of_mem {d : Effect} (mem : d ∈ r.effects) : r.isReady = true := by
  rw [isReady]
  cases effects : r.effects with
  | nil =>
    rw [effects] at mem
    cases mem
  | cons e rest => rfl

/-- A tag stands for a number exactly if the number has the tag. -/
theorem resolve_eq_found_iff {tag : String} {id : UInt32} :
    r.resolve tag = .found id ↔ r.tag? id = some tag := by
  rw [resolve, tag?]
  constructor
  · intro h
    split at h
    · split at h
      · next found =>
        cases h
        exact r.holds_index.tag?_iff.2 (r.holds_index.id?_iff.1 found)
      · cases h
    · cases h
  · intro h
    obtain ⟨d, mem, id_eq, tag_eq⟩ := r.holds_index.tag?_iff.1 h
    rw [if_pos (isReady_of_mem mem), r.holds_index.id?_iff.2 ⟨d, mem, id_eq, tag_eq⟩]

theorem ne_zero_of_tag? {id : UInt32} {tag : String} (h : r.tag? id = some tag) : id ≠ 0 := by
  obtain ⟨d, mem, rfl, -⟩ := r.holds_index.tag?_iff.1 h
  exact r.effects_sound.1 d mem

/-- The tag of an effect is not the tag of a gate. -/
theorem ofTag?_eq_none_of_tag? {id : UInt32} {tag : String} (h : r.tag? id = some tag) :
    GateKind.ofTag? tag = none := by
  obtain ⟨d, -, -, rfl⟩ := r.holds_index.tag?_iff.1 h
  cases isGate : GateKind.ofTag? d.tag with
  | none => rfl
  | some type =>
    have eq := congrArg (fun s : String => s.toList.head?) (GateKind.ofTag?_eq_some_iff.1 isGate)
    simp only [GateKind.tag, Effect.tag, String.toList_append] at eq
    exact absurd eq (by simp [gateTagStart, effectTagStart])

end Registry

end EffectFlow
