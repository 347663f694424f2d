import EffectFlow.Proofs.Fields.References

/-!
# Field rules

A rule reads nothing but its block fields (`FieldRule.toParams_congr`) and writes nothing but its
parameters (`FieldRule.get?_toParams_of_notMem`).  `numeric` changes nothing the second time
(`numeric_numeric`).

The text of a JSON field is never empty, and it stands for the value it was written from if the
numbers of the value read back and it is not nested too deeply (`ofText?_jsonFieldText`).
-/

namespace EffectFlow

open Json (Value Number)

/-! ## Dictionaries with one entry -/

theorem get?_none (key : String) : (∅ : Dict Value).get? key = none := rfl

theorem get?_insert_none_self (key : String) (v : Value) :
    (Dict.insert ∅ key v).get? key = some v := by
  rw [Dict.get?_insert, if_pos rfl]

theorem of_get?_insert_none {key name : String} {v u : Value}
    (h : (Dict.insert ∅ key v).get? name = some u) : name = key ∧ u = v := by
  rw [Dict.get?_insert, get?_none] at h
  split at h
  · next here =>
    cases h
    exact ⟨here.symm, rfl⟩
  · cases h

theorem isEmpty_eq_false_of_get? {d : Dict Value} {key : String} {v : Value}
    (found : d.get? key = some v) : d.isEmpty = false := by
  rw [Dict.isEmpty, List.isEmpty_eq_false_iff]
  exact List.ne_nil_of_mem (Dict.get?_eq_some_iff.1 found)

/-! ## Numeric texts -/

/-- Only a text becomes another value, and then a number. -/
theorem numeric_cases (v : Value) : numeric v = v ∨ ∃ n, numeric v = .number n := by
  simp only [numeric]
  split
  · split
    · next n _ => exact .inr ⟨n, rfl⟩
    · split
      · next x _ => exact .inr ⟨.float x, rfl⟩
      · exact .inl rfl
  · exact .inl rfl

theorem numeric_number (n : Number) : numeric (.number n) = .number n := rfl

/-- Making a value numeric again changes nothing. -/
theorem numeric_numeric (v : Value) : numeric (numeric v) = numeric v := by
  rcases numeric_cases v with eq | ⟨n, eq⟩
  · rw [eq, eq]
  · rw [eq, numeric_number]

theorem numeric_of_text?_eq_none {v : Value} (h : v.text? = none) : numeric v = v := by
  rw [Value.text?] at h
  rw [numeric]
  split
  · next s view =>
    rw [view] at h
    cases h
  · rfl

/-! ## Texts of JSON fields -/

theorem compact_ne_empty (v : Value) : v.compact ≠ "" := by
  have nonempty : ∀ t : Json.Tree, t.compact ≠ []
    | .null | .bool true | .bool false | .text _ | .array _ | .object _ | .torn _ | .broken =>
      List.cons_ne_nil _ _
    | .number n => Json.text_ne_nil n
  intro empty
  have chars := congrArg String.toList empty
  rw [Value.compact, String.toList_ofList] at chars
  exact nonempty v.tree chars

/-- The text of a field is the text that was given, or the compact form of the value. -/
theorem jsonFieldText_cases (v : Value) :
    (∃ s, v = .text s ∧ s ≠ "" ∧ Value.ofText? s = none ∧ jsonFieldText v = s) ∨
      jsonFieldText v = v.compact := by
  rw [jsonFieldText]
  split
  · next s view =>
    have eq : v = .text s := Value.eq_text_of_view view
    split
    · next keep =>
      simp only [Bool.and_eq_true, Bool.not_eq_true', Option.isNone_iff_eq_none] at keep
      refine .inl ⟨s, eq, fun empty => ?_, keep.2, rfl⟩
      rw [empty] at keep
      exact absurd keep.1 (by decide)
    · exact .inr rfl
  · exact .inr rfl

/-- The text of a JSON field is never empty. -/
theorem jsonFieldText_ne_empty (v : Value) : jsonFieldText v ≠ "" := by
  rcases jsonFieldText_cases v with ⟨s, -, nonempty, -, eq⟩ | eq
  · rwa [eq]
  · rw [eq]
    exact compact_ne_empty v

/-- The text of a field stands for the value it was written from. -/
theorem ofText?_jsonFieldText {v : Value} (back : v.tree.NumbersReadBack)
    (shallow : v.tree.depth ≤ Json.maxDepth) :
    (Value.ofText? (jsonFieldText v)).getD (.text (jsonFieldText v)) = v := by
  rcases jsonFieldText_cases v with ⟨s, rfl, -, notJson, eq⟩ | eq
  · rw [eq, notJson, Option.getD_none]
  · rw [eq, Value.ofText?_compact back shallow, Option.getD_some]

/-- What the text of a field stands for reads back if the value it was written from does. -/
theorem numbersReadBack_ofText?_jsonFieldText {v : Value} (back : v.tree.NumbersReadBack) :
    ((Value.ofText? (jsonFieldText v)).getD (.text (jsonFieldText v))).tree.NumbersReadBack := by
  rcases jsonFieldText_cases v with ⟨s, -, -, notJson, eq⟩ | eq
  · rw [eq, notJson]
    exact trivial
  · rw [eq, Value.ofText?_compact_eq_ite back]
    split
    · exact back
    · exact trivial

namespace FieldRule

/-! ## Pairs -/

/-- What the nested object of two members holds: the later member wins where their keys are the
same. -/
theorem get?_nested (fields : Dict Value) (first second : PairMember) (key : String) :
    (nested fields [first, second]).get? key =
      (if second.key = key then (fields.get? second.field).map numeric else none).or
        (if first.key = key then (fields.get? first.field).map numeric else none) := by
  simp only [nested, List.foldl_cons, List.foldl_nil]
  cases fields.get? second.field <;> cases fields.get? first.field <;>
    simp only [Dict.get?_insert, get?_none, Option.map_none, Option.map_some, ite_self,
      Option.none_or, Option.or_none]
  by_cases atSecond : second.key = key <;> simp [atSecond]

/-- The object of a pair of fields is empty exactly if both fields are missing. -/
theorem isEmpty_nested (fields : Dict Value) (first second : PairMember) :
    (nested fields [first, second]).isEmpty =
      ((fields.get? first.field).isNone && (fields.get? second.field).isNone) := by
  have member := get?_nested fields first second
  cases atSecond : fields.get? second.field with
  | some v =>
    have found := member second.key
    rw [atSecond, if_pos rfl, Option.map_some, Option.some_or] at found
    rw [isEmpty_eq_false_of_get? found, Option.isNone_some, Bool.and_false]
  | none =>
    cases atFirst : fields.get? first.field with
    | some v =>
      have found := member first.key
      rw [atSecond, atFirst, Option.map_none, ite_self, Option.none_or, if_pos rfl,
        Option.map_some] at found
      exact isEmpty_eq_false_of_get? found
    | none =>
      simp only [nested, List.foldl_cons, List.foldl_nil, atSecond, atFirst]
      rfl

/-- A member of a pair is numeric. -/
theorem of_nested_member {fields : Dict Value} {m : PairMember} {key : String} {v : Value}
    (made : (if m.key = key then (fields.get? m.field).map numeric else none) = some v) :
    key = m.key ∧ numeric v = v := by
  split at made
  · next here =>
    obtain ⟨x, -, rfl⟩ := Option.map_eq_some_iff.1 made
    exact ⟨here.symm, numeric_numeric x⟩
  · cases made

/-- The object that is made of two fields has no members but the two, and they stay as they are. -/
theorem of_get?_nested {fields : Dict Value} {first second : PairMember} {name : String}
    {v : Value} (found : (nested fields [first, second]).get? name = some v) :
    (name = first.key ∨ name = second.key) ∧ numeric v = v := by
  rw [get?_nested, Option.or_eq_some_iff] at found
  rcases found with ofSecond | ⟨-, ofFirst⟩
  · obtain ⟨atSecond, plain⟩ := of_nested_member ofSecond
    exact ⟨.inr atSecond, plain⟩
  · obtain ⟨atFirst, plain⟩ := of_nested_member ofFirst
    exact ⟨.inl atFirst, plain⟩

/-- What is found once an object is spread over fields: the later member wins, and then the earlier
one, over what was there. -/
theorem get?_spread (object fields : Dict Value) (first second : PairMember) (key : String) :
    (spread object fields [first, second]).get? key =
      (if second.field = key then object.get? second.key else none).or
        ((if first.field = key then object.get? first.key else none).or (fields.get? key)) := by
  simp only [spread, List.foldl_cons, List.foldl_nil]
  cases object.get? second.key <;> cases object.get? first.key <;>
    simp only [Dict.get?_insert, ite_self, Option.none_or]
  all_goals
    by_cases atSecond : second.field = key <;> by_cases atFirst : first.field = key <;>
      simp [atSecond, atFirst]

/-- An object of both members is made again from the fields it was spread to. -/
theorem nested_spread {object : Dict Value} {first second : PairMember}
    (fields_ne : first.field ≠ second.field)
    (known : ∀ key v, object.get? key = some v → key = first.key ∨ key = second.key)
    (settled : ∀ key v, object.get? key = some v → numeric v = v) :
    nested (spread object ∅ [first, second]) [first, second] = object := by
  have same : ∀ key, (object.get? key).map numeric = object.get? key := by
    intro key
    cases found : object.get? key with
    | none => rfl
    | some v => rw [Option.map_some, settled key v found]
  have ofFirst : (spread object ∅ [first, second]).get? first.field = object.get? first.key := by
    rw [get?_spread, if_neg (Ne.symm fields_ne), if_pos rfl]
    exact Option.or_none
  have ofSecond : (spread object ∅ [first, second]).get? second.field =
      object.get? second.key := by
    rw [get?_spread, if_pos rfl, if_neg fields_ne]
    exact Option.or_none
  refine Dict.ext_get? fun key => ?_
  rw [get?_nested, ofFirst, ofSecond, same, same]
  by_cases atSecond : second.key = key
  · subst atSecond
    rw [if_pos rfl]
    by_cases atFirst : first.key = second.key
    · rw [if_pos atFirst, atFirst, Option.or_self]
    · rw [if_neg atFirst, Option.or_none]
  · rw [if_neg atSecond, Option.none_or]
    by_cases atFirst : first.key = key
    · rw [if_pos atFirst, atFirst]
    · rw [if_neg atFirst]
      cases found : object.get? key with
      | none => rfl
      | some v =>
        rcases known key v found with eq | eq
        · exact absurd eq.symm atFirst
        · exact absurd eq.symm atSecond

/-! ## What a rule reads -/

/-- A rule makes nothing of no fields. -/
theorem toParams_none (rule : FieldRule) (params : Dict Value) :
    rule.toParams ∅ params = params := by
  cases rule <;> rfl

/-- A rule reads nothing but its block fields. -/
theorem toParams_congr {rule : FieldRule} {fields fields' : Dict Value}
    (h : ∀ name ∈ rule.blockFields, fields.get? name = fields'.get? name) (params : Dict Value) :
    rule.toParams fields params = rule.toParams fields' params := by
  cases rule with
  | reference field zoneKey idKey =>
    have same := h field List.mem_cons_self
    simp only [toParams, same]
  | pair key first second =>
    have same : nested fields [first, second] = nested fields' [first, second] := by
      refine Dict.ext_get? fun name => ?_
      rw [get?_nested, get?_nested, h first.field List.mem_cons_self,
        h second.field (List.mem_cons_of_mem _ List.mem_cons_self)]
    simp only [toParams, same]
  | json field =>
    have same := h field List.mem_cons_self
    simp only [toParams, same]

/-! ## What a rule writes -/

/-- A rule writes nothing but its parameters. -/
theorem get?_toParams_of_notMem {rule : FieldRule} {fields params : Dict Value}
    {key : String} (other : key ∉ rule.paramKeys) :
    (rule.toParams fields params).get? key = params.get? key := by
  cases rule with
  | reference field zoneKey idKey =>
    simp only [paramKeys, List.mem_cons, List.not_mem_nil, or_false, not_or] at other
    rw [toParams]
    split
    · rw [Dict.get?_insert, if_neg (Ne.symm other.2), Dict.get?_insert, if_neg (Ne.symm other.1)]
    · rfl
  | pair pairKey first second =>
    simp only [paramKeys, List.mem_singleton] at other
    rw [toParams]
    split
    · rfl
    · rw [Dict.get?_insert, if_neg (Ne.symm other)]
  | json field =>
    simp only [paramKeys, List.mem_singleton] at other
    rw [toParams]
    split
    · rw [Dict.get?_insert, if_neg (Ne.symm other)]
    · rfl

end FieldRule

end EffectFlow
