import EffectFlow.Proofs.Registry.Tags
import EffectFlow.Registry.Source
import Mathlib.Data.List.Induction

/-!
# Runs of a registry

A registry is changed by installing a snapshot or the tables of a source, by taking the snapshot
out, and by choosing a label.  The registry that a failed attempt leaves is the old one
(`Registry.eq_of_attempt_eq_error`).

After any number of changes the installed snapshot is the one that was installed last, unless it was
taken out since (`Registry.snapshot_run_iff`).  A registry answers by the effects that are installed
and by nothing else (`Registry.answers`), so this is so after every change of a run
(`Registry.answers_run`).
-/

namespace EffectFlow

/-- The source has all tables of the snapshot. -/
structure Source.Has (source : Source) (s : Snapshot) : Prop where
  /-- The catalogue of effects. -/
  effects : source.effects = .ok s.effects
  /-- The entities of each kind. -/
  entities : ∀ kind, source.entities kind = .ok (s.entities kind)
  /-- The zones. -/
  zones : source.zones = .ok s.zones

theorem bind_eq_ok_iff {ε α β : Type} {first : Except ε α} {next : α → Except ε β} {b : β} :
    first >>= next = .ok b ↔ ∃ a, first = .ok a ∧ next a = .ok b := by
  cases first with
  | error e => exact ⟨(nomatch ·), fun ⟨_, made, _⟩ => nomatch made⟩
  | ok a => exact ⟨fun made => ⟨a, rfl, made⟩, fun ⟨_, same, made⟩ => Except.ok.inj same ▸ made⟩

/-- A source gives a snapshot exactly if none of the tables fails. -/
theorem Source.snapshot_eq_ok_iff {source : Source} {s : Snapshot} :
    source.snapshot = .ok s ↔ source.Has s := by
  simp only [Source.snapshot, bind_eq_ok_iff]
  constructor
  · rintro ⟨effects, hasEffects, creatures, hasCreatures, items, hasItems, triggers, hasTriggers,
      zones, hasZones, made⟩
    cases made
    refine ⟨hasEffects, fun kind => ?_, hasZones⟩
    cases kind with
    | creature => exact hasCreatures
    | item => exact hasItems
    | trigger => exact hasTriggers
  · intro has
    exact ⟨_, has.effects, _, has.entities .creature, _, has.entities .item, _,
      has.entities .trigger, _, has.zones, rfl⟩

namespace Registry

/-! ## Changes -/

/-- What is done to a registry. -/
inductive Change where
  /-- A snapshot is installed. -/
  | install (s : Snapshot)
  /-- The tables of a source are installed. -/
  | installFrom (source : Source)
  /-- The snapshot is taken out. -/
  | clear
  /-- A placeholder label is chosen. -/
  | withLabel (label : String)

/-- What an attempt at a change leads to. -/
def attempt (r : Registry) : Change → Outcome
  | .install s => r.install s
  | .installFrom source => r.installFrom source
  | .clear => .ok () r.clear
  | .withLabel label => .ok () (r.withLabel label)

/-- A registry after an attempt at a change. -/
def step (r : Registry) (change : Change) : Registry :=
  match r.attempt change with
  | .ok _ changed => changed
  | .error _ left => left

/-- A registry after attempts at some changes. -/
def run (r : Registry) (changes : List Change) : Registry := changes.foldl step r

theorem run_concat (r : Registry) (changes : List Change) (change : Change) :
    r.run (changes ++ [change]) = (r.run changes).step change := List.foldl_concat ..

/-- The change puts the snapshot in a registry. -/
inductive Change.Installs : Change → Snapshot → Prop
  | install {s : Snapshot} (sound : s.Sound) : Installs (.install s) s
  | installFrom {source : Source} {s : Snapshot} (has : source.Has s) (sound : s.Sound) :
      Installs (.installFrom source) s

/-- The change leaves the snapshot of a registry. -/
def Change.Keeps (change : Change) : Prop := change ≠ .clear ∧ ∀ s, ¬change.Installs s

/-- The snapshot was installed by one of the changes, and stayed. -/
def LastInstalled (changes : List Change) (s : Snapshot) : Prop :=
  ∃ before change after, changes = before ++ change :: after ∧ change.Installs s ∧
    ∀ later ∈ after, later.Keeps

variable {r : Registry}

/-- Either the snapshot has a fault and the registry is left as it is, or the snapshot is sound and
is there afterwards. -/
theorem install_cases (r : Registry) (s : Snapshot) :
    (∃ fault, s.fault? = some fault ∧ r.install s = .error (.unsound fault) r) ∨
      s.Sound ∧ ∃ changed, r.install s = .ok () changed ∧ changed.snapshot = some s := by
  rw [install]
  split
  · next fault found => exact .inl ⟨fault, found, rfl⟩
  · next faultless => exact .inr ⟨Snapshot.fault?_eq_none_iff.1 faultless, _, rfl, rfl⟩

/-- A snapshot is installed exactly if it is sound. -/
theorem exists_install_iff {s : Snapshot} :
    (∃ changed, r.install s = .ok () changed) ↔ s.Sound := by
  rcases r.install_cases s with ⟨fault, found, failed⟩ | ⟨sound, changed, made, -⟩
  · rw [← Snapshot.fault?_eq_none_iff, found, failed]
    exact ⟨fun ⟨_, made⟩ => (nomatch made), (nomatch ·)⟩
  · exact ⟨fun _ => sound, fun _ => ⟨changed, made⟩⟩

theorem snapshot_of_install {s : Snapshot} {changed : Registry}
    (made : r.install s = .ok () changed) : changed.snapshot = some s := by
  rcases r.install_cases s with ⟨fault, -, failed⟩ | ⟨-, other, made', held⟩
  · cases made.symm.trans failed
  · cases made.symm.trans made'
    exact held

/-- Installing a source is installing the snapshot whose tables it has. -/
theorem installFrom_eq_ok_iff {source : Source} {changed : Registry} :
    r.installFrom source = .ok () changed ↔
      ∃ s, source.Has s ∧ r.install s = .ok () changed := by
  simp only [← Source.snapshot_eq_ok_iff]
  rw [installFrom]
  cases source.snapshot with
  | error e => exact ⟨(nomatch ·), fun ⟨_, found, _⟩ => nomatch found⟩
  | ok s => exact ⟨fun made => ⟨s, rfl, made⟩, fun ⟨_, found, made⟩ => Except.ok.inj found ▸ made⟩

/-- The tables of a source are installed exactly if it has them all and they are sound. -/
theorem exists_installFrom_iff {source : Source} :
    (∃ changed, r.installFrom source = .ok () changed) ↔ ∃ s, source.Has s ∧ s.Sound := by
  constructor
  · rintro ⟨changed, made⟩
    obtain ⟨s, has, made⟩ := installFrom_eq_ok_iff.1 made
    exact ⟨s, has, exists_install_iff.1 ⟨changed, made⟩⟩
  · rintro ⟨s, has, sound⟩
    obtain ⟨changed, made⟩ := exists_install_iff.2 sound
    exact ⟨changed, installFrom_eq_ok_iff.2 ⟨s, has, made⟩⟩

/-! ## Attempts that fail -/

/-- A snapshot with a fault leaves the registry as it is. -/
theorem eq_of_install_eq_error {s : Snapshot} {e : RegistryError} {left : Registry}
    (failed : r.install s = .error e left) : left = r := by
  rcases r.install_cases s with ⟨fault, -, failed'⟩ | ⟨-, changed, made, -⟩
  · cases failed.symm.trans failed'
    rfl
  · cases failed.symm.trans made

/-- So does a source that lacks a table or has unsound ones. -/
theorem eq_of_installFrom_eq_error {source : Source} {e : RegistryError} {left : Registry}
    (failed : r.installFrom source = .error e left) : left = r := by
  rw [installFrom] at failed
  split at failed
  · cases failed
    rfl
  · exact eq_of_install_eq_error failed

/-- An attempt that fails leaves the registry as it is. -/
theorem eq_of_attempt_eq_error {change : Change} {e : RegistryError} {left : Registry}
    (failed : r.attempt change = .error e left) : left = r := by
  cases change with
  | install s => exact eq_of_install_eq_error failed
  | installFrom source => exact eq_of_installFrom_eq_error failed
  | clear => cases failed
  | withLabel label => cases failed

/-! ## What attempts do -/

/-- What a change that succeeds does. -/
theorem of_attempt_eq_ok {change : Change} {changed : Registry}
    (made : r.attempt change = .ok () changed) :
    (∃ s, change.Installs s ∧ changed.snapshot = some s) ∨
      (change = .clear ∧ changed.snapshot = none) ∨
      (change.Keeps ∧ changed.snapshot = r.snapshot) := by
  cases change with
  | install s =>
    exact .inl ⟨s, .install (exists_install_iff.1 ⟨changed, made⟩), snapshot_of_install made⟩
  | installFrom source =>
    obtain ⟨s, has, made⟩ := installFrom_eq_ok_iff.1 made
    exact .inl ⟨s, .installFrom has (exists_install_iff.1 ⟨changed, made⟩),
      snapshot_of_install made⟩
  | clear =>
    cases made
    exact .inr (.inl ⟨rfl, rfl⟩)
  | withLabel label =>
    cases made
    exact .inr (.inr ⟨⟨nofun, nofun⟩, rfl⟩)

/-- A change that fails would have installed nothing. -/
theorem keeps_of_attempt_eq_error {change : Change} {e : RegistryError} {left : Registry}
    (failed : r.attempt change = .error e left) : change.Keeps := by
  constructor
  · rintro rfl
    cases failed
  · intro s installs
    have succeeds : ∃ changed, r.attempt change = .ok () changed := by
      cases installs with
      | install sound => exact exists_install_iff.2 sound
      | installFrom has sound => exact exists_installFrom_iff.2 ⟨s, has, sound⟩
    obtain ⟨changed, made⟩ := succeeds
    cases failed.symm.trans made

theorem Change.Installs.unique {change : Change} {s t : Snapshot} (installs : change.Installs s)
    (installs' : change.Installs t) : s = t := by
  cases installs with
  | install =>
    cases installs'
    rfl
  | installFrom has =>
    cases installs' with
    | installFrom has' =>
      exact Except.ok.inj ((Source.snapshot_eq_ok_iff.2 has).symm.trans
        (Source.snapshot_eq_ok_iff.2 has'))

/-! ## The installed snapshot -/

/-- After an attempt a snapshot is there if the change installs it, or if it was there and the
change keeps it. -/
theorem snapshot_step_iff {change : Change} {s : Snapshot} :
    (r.step change).snapshot = some s ↔ change.Installs s ∨ change.Keeps ∧ r.snapshot = some s := by
  rw [step]
  cases attempt : r.attempt change with
  | error e left =>
    obtain rfl := eq_of_attempt_eq_error attempt
    have keeps := keeps_of_attempt_eq_error attempt
    exact ⟨fun held => .inr ⟨keeps, held⟩,
      fun cases => cases.elim (absurd · (keeps.2 s)) And.right⟩
  | ok _ changed =>
    rcases of_attempt_eq_ok attempt with ⟨t, installs, held⟩ | ⟨rfl, held⟩ | ⟨keeps, held⟩
    · rw [held, Option.some.injEq]
      constructor
      · rintro rfl
        exact .inl installs
      · rintro (installs' | ⟨keeps, -⟩)
        · exact installs.unique installs'
        · exact absurd installs (keeps.2 t)
    · rw [held]
      exact ⟨(nomatch ·), fun | .inr ⟨keeps, _⟩ => absurd rfl keeps.1⟩
    · rw [held]
      exact ⟨fun held => .inr ⟨keeps, held⟩,
        fun cases => cases.elim (absurd · (keeps.2 s)) And.right⟩

theorem not_lastInstalled_nil {s : Snapshot} : ¬LastInstalled [] s := by
  rintro ⟨before, change, after, split, -⟩
  cases before <;> cases split

/-- The last of some changes is the one that installed the snapshot, or it leaves the snapshot. -/
theorem lastInstalled_concat_iff {changes : List Change} {change : Change} {s : Snapshot} :
    LastInstalled (changes ++ [change]) s ↔
      change.Installs s ∨ change.Keeps ∧ LastInstalled changes s := by
  constructor
  · rintro ⟨before, installer, after, split, installs, keep⟩
    rcases List.eq_nil_or_concat' after with rfl | ⟨between, last, rfl⟩
    · obtain ⟨-, rfl⟩ := List.append_singleton_inj.1 split
      exact .inl installs
    · rw [← List.cons_append, ← List.append_assoc] at split
      obtain ⟨rfl, rfl⟩ := List.append_singleton_inj.1 split
      exact .inr ⟨keep change (List.mem_append_right _ (List.mem_singleton_self change)),
        before, installer, between, rfl, installs,
        fun later mem => keep later (List.mem_append_left _ mem)⟩
  · rintro (installs | ⟨keeps, before, installer, after, rfl, installs, keep⟩)
    · exact ⟨changes, change, [], rfl, installs, List.forall_mem_nil _⟩
    · refine ⟨before, installer, after ++ [change], by rw [List.append_assoc, List.cons_append],
        installs, fun later mem => ?_⟩
      rcases List.mem_append.1 mem with mem | mem
      · exact keep later mem
      · rwa [List.mem_singleton.1 mem]

/-- A run from the empty registry leaves the snapshot that was installed last and not taken out. -/
theorem snapshot_run_iff (changes : List Change) (s : Snapshot) :
    (empty.run changes).snapshot = some s ↔ LastInstalled changes s := by
  induction changes using List.reverseRecOn with
  | nil => exact ⟨(nomatch ·), (absurd · not_lastInstalled_nil)⟩
  | append_singleton changes change ih =>
    rw [run_concat, snapshot_step_iff, lastInstalled_concat_iff]
    exact or_congr_right (and_congr_right' ih)

/-! ## Answers -/

/-- What the registry answers is read off the installed effects. -/
structure Answers (r : Registry) : Prop where
  /-- A number has a tag if an installed effect has both. -/
  tag?_iff : ∀ id tag, r.tag? id = some tag ↔ ∃ d ∈ r.effects, d.id = id ∧ d.tag = tag
  /-- A tag stands for a number if the number has the tag. -/
  resolve_iff : ∀ tag id, r.resolve tag = .found id ↔ r.tag? id = some tag
  /-- The effect of a number is the only installed one with the number. -/
  filter_effects : ∀ id, r.effects.filter (·.id == id) = (r.effect? id).toList
  /-- The effect of a name is the installed one whose name differs only in the case of letters. -/
  effectNamed?_iff : ∀ name d, r.effectNamed? name = some d ↔
    d ∈ r.effects ∧ Text.lowercase name = Text.lowercase d.name
  /-- The numbers are positive. -/
  one_le_id : ∀ d ∈ r.effects, 1 ≤ d.id

theorem filter_effects_eq (r : Registry) (id : UInt32) :
    r.effects.filter (·.id == id) = (r.effect? id).toList := by
  have first : r.effect? id = r.effects.find? (·.id == id) := by
    ext d
    rw [effect?_eq_some_iff, find?_key_eq_some_iff r.effects_sound.2.1]
  rw [first, filter_key_eq r.effects_sound.2.1]

/-- An effect is found by its name in any case of letters. -/
theorem effectNamed?_eq_some_iff {name : String} {d : Effect} :
    r.effectNamed? name = some d ↔
      d ∈ r.effects ∧ Text.lowercase name = Text.lowercase d.name := by
  rw [effectNamed?, effectOfTag?_eq_some_iff, Effect.tag, String.append_right_inj,
    Effect.lowerName, eq_comm]

/-- A registry answers by the installed effects and by nothing else. -/
theorem answers (r : Registry) : r.Answers where
  tag?_iff _ _ := r.holds_index.tag?_iff
  resolve_iff _ _ := resolve_eq_found_iff
  filter_effects := r.filter_effects_eq
  effectNamed?_iff _ _ := effectNamed?_eq_some_iff
  one_le_id d mem := by
    rw [UInt32.le_iff_toNat_le]
    exact Nat.one_le_iff_ne_zero.2 fun zero => r.effects_sound.1 d mem (UInt32.toNat_inj.1 zero)

/-- After any changes of the empty registry, the snapshot that was installed last and not taken out
since is there, and the registry answers by it.  Only sound snapshots can be installed, and the
registry that a failed attempt leaves is the one before it. -/
theorem answers_run (changes : List Change) :
    (∀ s, (empty.run changes).snapshot = some s ↔ LastInstalled changes s) ∧
      (empty.run changes).Answers ∧
      (∀ s, (∃ changed, (empty.run changes).install s = .ok () changed) ↔ s.Sound) ∧
      (∀ source, (∃ changed, (empty.run changes).installFrom source = .ok () changed) ↔
        ∃ s, source.Has s ∧ s.Sound) ∧
      ∀ change e left, (empty.run changes).attempt change = .error e left →
        left = empty.run changes ∧ empty.run (changes ++ [change]) = empty.run changes := by
  refine ⟨snapshot_run_iff changes, answers _, fun _ => exists_install_iff,
    fun _ => exists_installFrom_iff, fun change e left failed => ?_⟩
  have unchanged := eq_of_attempt_eq_error failed
  rw [run_concat, step, failed]
  exact ⟨unchanged, unchanged⟩

end Registry

end EffectFlow
