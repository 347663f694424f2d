import EffectFlow.Proofs.Fields.Rules

/-!
# Parameters that a rule makes again

A rule alone makes parameters of fields (`FieldRule.made`) and restores fields from parameters
(`FieldRule.restored`).

For a reference rule and a pair rule the second does not undo the first: the parts of a reference
are trimmed, and texts that spell numbers become numbers.  But this happens once only.  What such a
rule makes of any fields, it makes again of the fields that it restores from it
(`FieldRule.made_restored_made`).  A reference rule makes two parameters of a reference and none of
anything else (`FieldRule.made_reference_ne_iff`).

A JSON rule makes a value again of the text that it restores from it, if the value reads back
(`FieldRule.made_restored_json`), and it restores a text that is no JSON
(`FieldRule.restored_made_json`).
-/

namespace EffectFlow

open Json (Value)

/-- A text is not blank exactly if one of its characters is not. -/
theorem Text.trim_ne_nil_iff {text : List Char} :
    Text.trim text ≠ [] ↔ ∃ ch ∈ text, Text.isBlank ch = false := by
  rw [ne_eq, Text.trim_eq_nil_iff]
  simp

namespace FieldRule

/-- The parameters that the rule makes of fields. -/
def made (rule : FieldRule) (fields : Dict Value) : Dict Value := rule.toParams fields ∅

/-- The fields that the rule restores from parameters. -/
def restored (rule : FieldRule) (params : Dict Value) : Dict Value :=
  (rule.toFields params ∅).fields

theorem made_none (rule : FieldRule) : rule.made ∅ = ∅ := rule.toParams_none ∅

theorem restored_none (rule : FieldRule) : rule.restored ∅ = ∅ := by
  cases rule <;> rfl

/-- Nothing that was made of fields is made again of what is restored from it. -/
theorem made_restored_of_eq_none {rule : FieldRule} {params : Dict Value} (none : params = ∅) :
    rule.made (rule.restored params) = params := by
  rw [none, restored_none, made_none]

/-! ## References -/

section reference

variable {field zoneKey idKey : String} {fields : Dict Value}

theorem made_reference_of_none (other : (fields.get? field).bind referenceParts? = none) :
    (reference field zoneKey idKey).made fields = ∅ := by
  simp only [made, toParams, other]

theorem made_reference_of_some {zone id : List Char}
    (found : (fields.get? field).bind referenceParts? = some (zone, id)) :
    (reference field zoneKey idKey).made fields =
      (Dict.insert ∅ zoneKey (referencePart zone)).insert idKey (referencePart id) := by
  simp only [made, toParams, found]

theorem restored_reference {zone id : Value} {params : Dict Value}
    (atZone : params.get? zoneKey = some zone) (atId : params.get? idKey = some id) :
    (reference field zoneKey idKey).restored params =
      Dict.insert ∅ field (.text (plainText zone ++ ":" ++ plainText id)) := by
  simp only [restored, toFields, atZone, atId]

/-- What is made of a reference is made of it again once it is restored. -/
theorem made_restored_made_reference (keys_ne : zoneKey ≠ idKey) (fields : Dict Value) :
    (reference field zoneKey idKey).made
        ((reference field zoneKey idKey).restored ((reference field zoneKey idKey).made fields)) =
      (reference field zoneKey idKey).made fields := by
  cases found : (fields.get? field).bind referenceParts? with
  | none => exact made_restored_of_eq_none (made_reference_of_none found)
  | some parts =>
    obtain ⟨zone, id⟩ := parts
    obtain ⟨v, -, read⟩ := Option.bind_eq_some_iff.1 found
    obtain ⟨noColon, zoneSolid, idSolid⟩ := of_referenceParts? read
    have zonePart := readsAsPart_referencePart zoneSolid
    have idPart := readsAsPart_referencePart idSolid
    -- The text that is written has the two parts again, though perhaps not as they were spelled.
    have again : referenceParts?
        (.text (plainText (referencePart zone) ++ ":" ++ plainText (referencePart id))) =
          some ((plainText (referencePart zone)).toList, (plainText (referencePart id)).toList) :=
      referenceParts?_text zonePart idPart (colon_notMem_plainText_referencePart noColon)
    have atZone : ((reference field zoneKey idKey).made fields).get? zoneKey =
        some (referencePart zone) := by
      rw [made_reference_of_some found, Dict.get?_insert, if_neg (Ne.symm keys_ne),
        get?_insert_none_self]
    have atId : ((reference field zoneKey idKey).made fields).get? idKey =
        some (referencePart id) := by
      rw [made_reference_of_some found, Dict.get?_insert, if_pos rfl]
    rw [restored_reference atZone atId, made_reference_of_some found,
      made_reference_of_some (by rw [get?_insert_none_self]; exact again), zonePart.1, idPart.1]

/-- A reference rule makes something of a field exactly if it holds a text that is not blank on
either side of its first colon. -/
theorem made_reference_ne_iff :
    (reference field zoneKey idKey).made fields ≠ ∅ ↔
      ∃ s zone id, fields.get? field = some (.text s) ∧ s.toList = zone ++ ':' :: id ∧
        ':' ∉ zone ∧ (∃ ch ∈ zone, Text.isBlank ch = false) ∧
          ∃ ch ∈ id, Text.isBlank ch = false := by
  constructor
  · intro some_made
    cases found : (fields.get? field).bind referenceParts? with
    | none => exact absurd (made_reference_of_none found) some_made
    | some parts =>
      obtain ⟨v, held, read⟩ := Option.bind_eq_some_iff.1 found
      obtain ⟨s, rfl, chars, noColon, zoneSolid, idSolid⟩ := referenceParts?_eq_some_iff.1 read
      exact ⟨s, _, _, held, chars, noColon, Text.trim_ne_nil_iff.1 zoneSolid,
        Text.trim_ne_nil_iff.1 idSolid⟩
  · rintro ⟨s, zone, id, held, chars, noColon, zoneSolid, idSolid⟩ none_made
    have read : referenceParts? (.text s) = some (zone, id) :=
      referenceParts?_eq_some_iff.2 ⟨s, rfl, chars, noColon, Text.trim_ne_nil_iff.2 zoneSolid,
        Text.trim_ne_nil_iff.2 idSolid⟩
    have found : (fields.get? field).bind referenceParts? = some (zone, id) := by
      rw [held]
      exact read
    have there := congrArg (Dict.get? · idKey) none_made
    rw [made_reference_of_some found] at there
    simp [Dict.get?_insert, get?_none] at there

end reference

/-! ## Pairs -/

section pair

variable {key : String} {first second : PairMember} {fields : Dict Value}

theorem made_pair (fields : Dict Value) :
    (pair key first second).made fields =
      if (nested fields [first, second]).isEmpty then ∅
      else Dict.insert ∅ key (.object (nested fields [first, second])) := rfl

theorem restored_pair (object : Dict Value) :
    (pair key first second).restored (Dict.insert ∅ key (.object object)) =
      spread object ∅ [first, second] := by
  simp only [restored, toFields, get?_insert_none_self, Option.bind_some, Value.members?_object]

/-- What is made of a pair is made of it again once it is restored. -/
theorem made_restored_made_pair (fields_ne : first.field ≠ second.field) (fields : Dict Value) :
    (pair key first second).made
        ((pair key first second).restored ((pair key first second).made fields)) =
      (pair key first second).made fields := by
  cases empty : (nested fields [first, second]).isEmpty with
  | true =>
    refine made_restored_of_eq_none ?_
    rw [made_pair, if_pos empty]
  | false =>
    have filled : (pair key first second).made fields =
        Dict.insert ∅ key (.object (nested fields [first, second])) := by
      rw [made_pair, if_neg (Bool.eq_false_iff.1 empty)]
    have back : nested (spread (nested fields [first, second]) ∅ [first, second]) [first, second] =
        nested fields [first, second] :=
      nested_spread fields_ne (fun _ _ found => (of_get?_nested found).1)
        fun _ _ found => (of_get?_nested found).2
    rw [filled, restored_pair, made_pair, back, if_neg (Bool.eq_false_iff.1 empty)]

end pair

/-! ## JSON -/

section json

variable {field : String}

/-- A value that reads back is made again of its text. -/
theorem made_restored_json {v : Value} (numbers : v.tree.NumbersReadBack)
    (shallow : v.tree.depth ≤ Json.maxDepth) :
    (json field).made ((json field).restored (Dict.insert ∅ field v)) = Dict.insert ∅ field v := by
  have text : (json field).restored (Dict.insert ∅ field v) =
      Dict.insert ∅ field (.text (jsonFieldText v)) := by
    simp only [restored, toFields, get?_insert_none_self]
  have parsed : ((Value.text (jsonFieldText v)).text?.bind Value.ofText?).getD
      (.text (jsonFieldText v)) = v := ofText?_jsonFieldText numbers shallow
  rw [text]
  simp only [made, toParams, get?_insert_none_self, parsed]

/-- A text that is no JSON is restored from the parameter it was made to. -/
theorem restored_made_json {s : String} (nonempty : s ≠ "") (notJson : Value.ofText? s = none) :
    (json field).restored ((json field).made (Dict.insert ∅ field (.text s))) =
      Dict.insert ∅ field (.text s) := by
  have stays : ((Value.text s).text?.bind Value.ofText?).getD (.text s) = .text s := by
    show (Value.ofText? s).getD (.text s) = _
    rw [notJson, Option.getD_none]
  have value : (json field).made (Dict.insert ∅ field (.text s)) =
      Dict.insert ∅ field (.text s) := by
    simp only [made, toParams, get?_insert_none_self, stays]
  have bare : jsonFieldText (.text s) = s := by
    simp [jsonFieldText, nonempty, notJson]
  rw [value]
  simp only [restored, toFields, get?_insert_none_self, bare]

/-- The text of a parameter is never empty. -/
theorem get?_restored_json {params : Dict Value} {v : Value} (found : params.get? field = some v) :
    ((json field).restored params).get? field = some (.text (jsonFieldText v)) ∧
      jsonFieldText v ≠ "" := by
  simp only [restored, toFields, found, get?_insert_none_self, true_and]
  exact jsonFieldText_ne_empty v

end json

/-! ## References and pairs -/

/-- Of the fields that a reference rule or a pair rule restores from what it made, it makes the same
again, and a reference rule makes something of references only. -/
theorem made_restored_made :
    (∀ (field zoneKey idKey : String) (fields : Dict Value), zoneKey ≠ idKey →
      (reference field zoneKey idKey).made ((reference field zoneKey idKey).restored
        ((reference field zoneKey idKey).made fields)) =
          (reference field zoneKey idKey).made fields) ∧
    (∀ (key : String) (first second : PairMember) (fields : Dict Value),
      first.field ≠ second.field →
        (pair key first second).made ((pair key first second).restored
          ((pair key first second).made fields)) = (pair key first second).made fields) ∧
    ∀ (field zoneKey idKey : String) (fields : Dict Value),
      (reference field zoneKey idKey).made fields ≠ ∅ ↔
        ∃ s zone id, fields.get? field = some (.text s) ∧ s.toList = zone ++ ':' :: id ∧
          ':' ∉ zone ∧ (∃ ch ∈ zone, Text.isBlank ch = false) ∧
            ∃ ch ∈ id, Text.isBlank ch = false := by
  refine ⟨?_, ?_, ?_⟩
  · intro field zoneKey idKey fields keys_ne
    exact made_restored_made_reference keys_ne fields
  · intro key first second fields fields_ne
    exact made_restored_made_pair fields_ne fields
  · intro field zoneKey idKey fields
    exact made_reference_ne_iff

/-- A reference rule that puts the zone under the name of its field. -/
def placeRule : FieldRule := reference "place" "place" "id"

/-- A zone with blanks and a leading zero, and a number with a colon. -/
def spacedPlace : Dict Value := Dict.ofList [("place", .text " 03 : a:1")]

/-- A pair rule that puts the object under the name of its first field. -/
def targetRule : FieldRule := pair "target" ⟨"target", "x"⟩ ⟨"y", "y"⟩

/-- An integer and a fraction, both spelled in texts. -/
def spelledTarget : Dict Value := Dict.ofList [("target", .text " 4 "), ("y", .text "1e3")]

theorem made_restored_made_spelled :
    placeRule.made (placeRule.restored (placeRule.made spacedPlace)) =
        Dict.ofList [("id", .text "a:1"), ("place", .int64 3)] ∧
      targetRule.made (targetRule.restored (targetRule.made spelledTarget)) =
        targetRule.made spelledTarget ∧
      targetRule.made spelledTarget ≠ ∅ := by
  refine ⟨?_, ?_, ?_⟩
  · refine (made_restored_made.1 _ _ _ spacedPlace (by decide)).trans ?_
    decide +kernel
  · exact made_restored_made.2.1 _ _ _ spelledTarget (by decide)
  · decide +kernel

end FieldRule

end EffectFlow
