import EffectFlow.Registry.Parameter

/-!
# Parameters at every depth

A parameter declares its fields, and these are parameters again.  A path of names leads from a
parameter to one that is nested in it, through the fields of objects (`Parameter.Leads`), and the
same path leads through the members of a value (`Value.at?`).

A value *meets* a parameter if, wherever the paths of both go on together, it passes the local tests
of the parameter that the path leads to, and lacks nothing that is required there.  This unrolls by
one level (`Parameter.meets_iff`), as the check does.  So the check passes over nothing, at any
depth (`Parameter.faultless_iff_forall_path`).
-/

namespace EffectFlow

open Json (Value)

namespace Json.Value

/-! ## Paths in values -/

/-- The value at the end of a path of names. -/
def at? (v : Value) : List String → Option Value
  | [] => some v
  | name :: rest => (v.members?.bind (·.get? name)).bind fun w => w.at? rest

/-- The path may be followed to its last name: an object stands at every proper prefix. -/
def OpensAlong (v : Value) (path : List String) : Prop :=
  ∀ front, front <+: path → front ≠ path →
    ∃ w members, v.at? front = some w ∧ w.members? = some members

theorem opensAlong_nil (v : Value) : v.OpensAlong [] :=
  fun _ start proper => absurd (List.prefix_nil.1 start) proper

/-- The first name asks for an object.  A path that goes on asks for a member, which the rest of the
path may be followed from. -/
theorem opensAlong_cons_iff {v : Value} {name : String} {rest : List String} :
    v.OpensAlong (name :: rest) ↔
      ∃ members, v.members? = some members ∧
        (rest ≠ [] → ∃ w, members.get? name = some w) ∧
          ∀ w, members.get? name = some w → w.OpensAlong rest := by
  constructor
  · intro opens
    obtain ⟨_, members, start, found⟩ :=
      opens [] List.nil_prefix (List.cons_ne_nil name rest).symm
    cases start
    have at_cons (front : List String) :
        v.at? (name :: front) = (members.get? name).bind fun w => w.at? front := by
      rw [at?, found, Option.bind_some]
    refine ⟨members, found, fun goesOn => ?_, fun w member front start proper => ?_⟩
    · obtain ⟨w, _, reached, -⟩ :=
        opens [name] (List.prefix_append [name] rest) (by simpa using goesOn.symm)
      rw [at_cons] at reached
      obtain ⟨u, member, -⟩ := Option.bind_eq_some_iff.1 reached
      exact ⟨u, member⟩
    · obtain ⟨u, inner, reached, object⟩ :=
        opens (name :: front) ((List.prefix_cons_inj name).2 start) (by simpa using proper)
      rw [at_cons, member, Option.bind_some] at reached
      exact ⟨u, inner, reached, object⟩
  · rintro ⟨members, found, goesOn, opens⟩ front start proper
    cases front with
    | nil => exact ⟨v, members, rfl, found⟩
    | cons first front =>
      obtain ⟨rfl, within⟩ := List.cons_prefix_cons.1 start
      have shorter : front ≠ rest := fun same => proper (same ▸ rfl)
      have nonempty : rest ≠ [] := by
        rintro rfl
        exact shorter (List.prefix_nil.1 within)
      obtain ⟨w, member⟩ := goesOn nonempty
      obtain ⟨u, inner, reached, object⟩ := opens w member front within shorter
      refine ⟨u, inner, ?_, object⟩
      rw [at?, found, Option.bind_some, member, Option.bind_some, reached]

end Json.Value

namespace Parameter

/-! ## Local tests -/

/-- The value passes the tests of the parameter itself: it is of the kind, a number is in the range,
and a text is one of the options if there are any. -/
structure Fits (spec : Parameter) (v : Value) : Prop where
  kind : spec.kind.accepts v = true
  least : ∀ n, v.number? = some n → ∀ least, spec.min = some least → n.toBinary64.lt least = false
  most : ∀ n, v.number? = some n → ∀ most, spec.max = some most → most.lt n.toBinary64 = false
  option : ∀ s, v.text? = some s → spec.options ≠ [] → s ∈ spec.options

/-- A value is in range exactly if it is no number, or one within the bounds there are. -/
theorem rangeFault?_eq_none_iff {min max : Option Binary64} {v : Value} :
    rangeFault? min max v = none ↔
      ∀ n, v.number? = some n → (∀ least, min = some least → n.toBinary64.lt least = false) ∧
        ∀ most, max = some most → most.lt n.toBinary64 = false := by
  rw [rangeFault?]
  cases v.number? with
  | none => simp
  | some n =>
    simp only [Option.some.injEq, forall_eq']
    cases below : min.filter (n.toBinary64.lt ·) with
    | some least =>
      obtain ⟨isMin, less⟩ := Option.filter_eq_some_iff.1 below
      refine iff_of_false (Option.some_ne_none _) fun both => ?_
      rw [both.1 least isMin] at less
      cases less
    | none =>
      rw [Option.filter_eq_none_iff] at below
      simp only [Option.map_eq_none_iff, Option.filter_eq_none_iff, Bool.not_eq_true]
      exact (and_iff_right fun least isMin => Bool.not_eq_true _ ▸ below least isMin).symm

/-- A value is among the options exactly if it is no text, or there are no options, or it is one of
them. -/
theorem optionFault?_eq_none_iff {options : List String} {v : Value} :
    optionFault? options v = none ↔ ∀ s, v.text? = some s → options ≠ [] → s ∈ options := by
  rw [optionFault?]
  cases v.text? with
  | none => simp
  | some s => simp [Decidable.or_iff_not_imp_left]

/-- The local tests find no fault exactly if the value passes them. -/
theorem localFault?_eq_none_iff {spec : Parameter} {v : Value} :
    localFault? spec v = none ↔ spec.Fits v := by
  rw [localFault?]
  cases kind : spec.kind.accepts v with
  | false =>
    refine iff_of_false (Option.some_ne_none _) fun fits => ?_
    exact Bool.false_ne_true (kind.symm.trans fits.kind)
  | true =>
    simp only [Bool.not_true, Bool.false_eq_true, if_false, Option.or_eq_none_iff,
      rangeFault?_eq_none_iff, optionFault?_eq_none_iff]
    constructor
    · rintro ⟨range, option⟩
      exact ⟨kind, fun n number => (range n number).1, fun n number => (range n number).2, option⟩
    · intro fits
      exact ⟨fun n number => ⟨fits.least n number, fits.most n number⟩, fits.option⟩

/-! ## Paths in parameters -/

/-- The path leads from the parameter to the target, through fields of objects. -/
inductive Leads : Parameter → List String → Parameter → Prop where
  /-- The empty path stays. -/
  | here {spec : Parameter} : Leads spec [] spec
  /-- A name leads to a field of that name. -/
  | field {spec inner target : Parameter} {name : String} {rest : List String}
      (object : spec.kind = .object) (declared : (name, inner) ∈ spec.fields)
      (further : Leads inner rest target) : Leads spec (name :: rest) target

/-- Wherever a path leads in the parameter, and objects stand along it in the value, the value at
its end fits.  If there is none, none is required. -/
def Meets (spec : Parameter) (v : Value) : Prop :=
  ∀ path target, Leads spec path target → v.OpensAlong path →
    (∀ w, v.at? path = some w → target.Fits w) ∧ (v.at? path = none → target.required = false)

/-- A field meets its parameter: what stands under the name does, or it is not required. -/
def MeetsField (field : String × Parameter) (members : Dict Value) : Prop :=
  (∀ w, members.get? field.1 = some w → field.2.Meets w) ∧
    (members.get? field.1 = none → field.2.required = false)

/-- To meet a parameter is to fit, and to meet its fields if both are objects. -/
theorem meets_iff {spec : Parameter} {v : Value} :
    spec.Meets v ↔
      spec.Fits v ∧ (spec.kind = .object → ∀ members, v.members? = some members →
        ∀ field ∈ spec.fields, MeetsField field members) := by
  constructor
  · intro meets
    refine ⟨(meets [] spec .here (Value.opensAlong_nil v)).1 v rfl, ?_⟩
    rintro object members found ⟨name, inner⟩ declared
    have at_cons (rest : List String) :
        v.at? (name :: rest) = (members.get? name).bind fun w => w.at? rest := by
      rw [Value.at?, found, Option.bind_some]
    constructor
    · intro w member path target leads opens
      have along : v.OpensAlong (name :: path) := by
        refine Value.opensAlong_cons_iff.2 ⟨members, found, fun _ => ⟨w, member⟩, ?_⟩
        intro u member'
        cases member.symm.trans member'
        exact opens
      have both := meets (name :: path) target (.field object declared leads) along
      rwa [at_cons, member, Option.bind_some] at both
    · intro missing
      have along : v.OpensAlong [name] := by
        refine Value.opensAlong_cons_iff.2 ⟨members, found, fun goesOn => absurd rfl goesOn, ?_⟩
        exact fun w _ => Value.opensAlong_nil w
      refine (meets [name] inner (.field object declared .here) along).2 ?_
      rw [at_cons, missing, Option.bind_none]
  · rintro ⟨fits, fields⟩ path target leads opens
    cases leads with
    | here =>
      refine ⟨fun w reached => ?_, fun missing => ?_⟩
      · cases reached
        exact fits
      · cases missing
    | @field _ inner _ name rest object declared further =>
      obtain ⟨members, found, goesOn, along⟩ := Value.opensAlong_cons_iff.1 opens
      obtain ⟨present, absent⟩ := fields object members found (name, inner) declared
      rw [Value.at?, found, Option.bind_some]
      cases member : members.get? name with
      | some w => exact present w member rest target further (along w member)
      | none =>
        cases further with
        | here => exact ⟨nofun, fun _ => absent member⟩
        | field =>
          obtain ⟨w, member'⟩ := goesOn (List.cons_ne_nil _ _)
          cases member.symm.trans member'

/-! ## The check -/

/-- The local tests come first, and then the fields if both are objects. -/
theorem fault?_eq (spec : Parameter) (v : Value) :
    spec.fault? v = (localFault? spec v).or
      (if spec.kind = .object then v.members?.bind (fieldsFault? spec.fields) else none) := by
  obtain ⟨kind, required, default, min, max, options, fields, reference⟩ := spec
  cases kind <;> cases found : v.members? <;> simp [fault?, found]

mutual

/-- The check finds no fault exactly if the value meets the parameter. -/
theorem fault?_eq_none_iff_meets : ∀ (spec : Parameter) (v : Value),
    spec.fault? v = none ↔ spec.Meets v
  | ⟨kind, required, default, min, max, options, fields, reference⟩, v => by
    rw [meets_iff, fault?_eq, Option.or_eq_none_iff, localFault?_eq_none_iff]
    refine and_congr_right fun _ => ?_
    by_cases object : kind = .object
    · simp only [object, if_true, Option.bind_eq_none_iff, true_implies]
      exact forall₂_congr fun members _ => fieldsFault?_eq_none_iff_meets fields members
    · simp only [object, if_false, false_implies]

/-- So it is for the fields of an object. -/
theorem fieldsFault?_eq_none_iff_meets : ∀ (fields : List (String × Parameter))
    (members : Dict Value),
    fieldsFault? fields members = none ↔ ∀ field ∈ fields, MeetsField field members
  | [], _ => iff_of_true rfl (List.forall_mem_nil _)
  | (name, spec) :: rest, members => by
    rw [fieldsFault?, Option.or_eq_none_iff, fieldsFault?_eq_none_iff_meets rest members,
      List.forall_mem_cons]
    refine and_congr_left fun _ => ?_
    rw [MeetsField]
    cases member : members.get? name with
    | some w => simp [fault?_eq_none_iff_meets spec w]
    | none => simp

end

/-- A value has no fault exactly if every path that leads from the parameter through fields of
objects, with objects along it in the value, ends at a value that fits, or at none where none is
required. -/
theorem faultless_iff_forall_path (spec : Parameter) (v : Value) :
    spec.fault? v = none ↔
      ∀ path target, Leads spec path target →
        (∀ front, front <+: path → front ≠ path →
          ∃ w members, v.at? front = some w ∧ w.members? = some members) →
        (∀ w, v.at? path = some w → target.Fits w) ∧
          (v.at? path = none → target.required = false) :=
  fault?_eq_none_iff_meets spec v

end Parameter

end EffectFlow
