import EffectFlow.Registry.Basic
import Mathlib.Data.List.Nodup

/-!
# What the index of a registry holds

The tables of an index *hold* some effects if they have entries for each of them and no others
(`Index.Holds`).  An effect whose number and tag are new keeps that (`Index.Holds.add`), and so does
the pass over a catalogue in which no number and no tag comes twice (`Index.Holds.addAll`).

The index of a registry holds its effects, because only sound snapshots are installed
(`Registry.holds_index`).
-/

namespace EffectFlow

/-- Tags are as distinct as the names in lower case. -/
theorem Effect.lowerName_eq_of_tag {d e : Effect} (h : d.tag = e.tag) :
    d.lowerName = e.lowerName := (String.append_right_inj effectTagStart).1 h

namespace Index

/-- The tables have entries for the effects, and no others. -/
structure Holds (index : Index) (effects : List Effect) : Prop where
  /-- The tags by number. -/
  tag?_iff : ∀ {id : UInt32} {tag : String},
    index.tag? id = some tag ↔ ∃ d ∈ effects, d.id = id ∧ d.tag = tag
  /-- The numbers by tag. -/
  id?_iff : ∀ {tag : String} {id : UInt32},
    index.id? tag = some id ↔ ∃ d ∈ effects, d.id = id ∧ d.tag = tag
  /-- The places by number. -/
  place?_iff : ∀ {id : UInt32} {place : Nat},
    index.place? id = some place ↔ ∃ d, effects[place]? = some d ∧ d.id = id

/-- An entry with a new key adds what it says. -/
theorem lookup_cons_eq_some_iff {α β : Type} [DecidableEq α] {table : List (α × β)} {key k : α}
    {value v : β} (fresh : ∀ w, table.lookup key ≠ some w) :
    List.lookup k ((key, value) :: table) = some v ↔
      table.lookup k = some v ∨ key = k ∧ value = v := by
  rw [List.lookup_cons]
  cases same : k == key with
  | true =>
    cases beq_iff_eq.1 same
    rw [Option.some.injEq]
    exact ⟨fun eq => .inr ⟨rfl, eq⟩, fun found => found.elim (absurd · (fresh v)) And.right⟩
  | false =>
    have other : key ≠ k := fun eq => ne_of_beq_false same eq.symm
    exact ⟨.inl, fun found => found.elim id fun here => absurd here.1 other⟩

theorem holds_empty : Holds {} [] where
  tag?_iff := ⟨(nomatch ·), fun ⟨_, mem, _⟩ => nomatch mem⟩
  id?_iff := ⟨(nomatch ·), fun ⟨_, mem, _⟩ => nomatch mem⟩
  place?_iff := ⟨(nomatch ·), fun ⟨_, there, _⟩ => nomatch there⟩

variable {index : Index} {front : List Effect}

theorem exists_mem_concat_iff {P : Effect → Prop} {d : Effect} :
    (∃ e ∈ front ++ [d], P e) ↔ (∃ e ∈ front, P e) ∨ P d := by
  simp only [List.mem_append, List.mem_singleton, or_and_right, exists_or, exists_eq_left]

theorem exists_getElem?_concat_iff {P : Effect → Prop} {d : Effect} {place : Nat} :
    (∃ e, (front ++ [d])[place]? = some e ∧ P e) ↔
      (∃ e, front[place]? = some e ∧ P e) ∨ P d ∧ front.length = place := by
  rw [List.getElem?_append]
  split
  · next inside =>
    exact ⟨.inl, fun found => found.elim id fun here => absurd here.2 (Nat.ne_of_gt inside)⟩
  · next outside =>
    have le := Nat.le_of_not_lt outside
    rw [List.getElem?_eq_none le, List.getElem?_singleton]
    split
    · next zero =>
      have last := Nat.le_antisymm le (Nat.le_of_sub_eq_zero zero)
      simp [last]
    · next above =>
      have further : front.length ≠ place := fun last => above (last ▸ Nat.sub_self _)
      simp [further]

/-- An effect with a new number and a new tag is added to all three tables. -/
theorem Holds.add (holds : index.Holds front) {d : Effect} (newId : ∀ e ∈ front, e.id ≠ d.id)
    (newTag : ∀ e ∈ front, e.tag ≠ d.tag) : (index.add front.length d).Holds (front ++ [d]) where
  tag?_iff := by
    intro id tag
    rw [exists_mem_concat_iff, ← holds.tag?_iff]
    refine lookup_cons_eq_some_iff fun old found => ?_
    obtain ⟨e, mem, same, -⟩ := holds.tag?_iff.1 found
    exact newId e mem same
  id?_iff := by
    intro tag id
    rw [exists_mem_concat_iff, ← holds.id?_iff, @and_comm (d.id = id)]
    refine lookup_cons_eq_some_iff fun old found => ?_
    obtain ⟨e, mem, -, same⟩ := holds.id?_iff.1 found
    exact newTag e mem same
  place?_iff := by
    intro id place
    rw [exists_getElem?_concat_iff, ← holds.place?_iff]
    refine lookup_cons_eq_some_iff fun old found => ?_
    obtain ⟨e, there, same⟩ := holds.place?_iff.1 found
    exact newId e (List.mem_of_getElem? there) same

/-- A pass over effects whose numbers and tags are all distinct adds every one of them. -/
theorem Holds.addAll {rest : List Effect} (holds : index.Holds front)
    (ids : ((front ++ rest).map (·.id)).Nodup) (tags : ((front ++ rest).map (·.tag)).Nodup) :
    (index.addAll front.length rest).Holds (front ++ rest) := by
  induction rest generalizing index front with
  | nil => rwa [List.append_nil]
  | cons d rest ih =>
    have newId : ∀ e ∈ front, e.id ≠ d.id := fun e mem => by
      rw [List.map_append] at ids
      exact (List.nodup_append.1 ids).2.2 _ (List.mem_map_of_mem mem) _ (List.mem_cons_self ..)
    have newTag : ∀ e ∈ front, e.tag ≠ d.tag := fun e mem => by
      rw [List.map_append] at tags
      exact (List.nodup_append.1 tags).2.2 _ (List.mem_map_of_mem mem) _ (List.mem_cons_self ..)
    -- The effect joins those in front, and the rest is compared with all of them.
    have later := ih (holds.add newId newTag)
    rw [List.append_assoc, List.length_append] at later
    exact later ids tags

/-- The index of effects with distinct numbers and names holds just these effects. -/
theorem holds_ofEffects {effects : List Effect} (ids : (effects.map (·.id)).Nodup)
    (names : (effects.map (·.lowerName)).Nodup) : (ofEffects effects).Holds effects := by
  have tags : (effects.map (·.tag)).Nodup :=
    List.Pairwise.map _ (fun _ _ differ => mt Effect.lowerName_eq_of_tag differ)
      (List.pairwise_map.1 names)
  exact holds_empty.addAll ids tags

end Index

/-- The index of a registry holds its effects. -/
theorem Registry.holds_index (r : Registry) : r.index.Holds r.effects := by
  rw [r.indexed, effects]
  cases installed : r.snapshot with
  | none => exact Index.holds_empty
  | some s =>
    have sound := r.sound s installed
    exact Index.holds_ofEffects sound.ids_nodup sound.names_nodup

end EffectFlow
