import EffectFlow.Proofs.Fields.References
import EffectFlow.Registry.Dice

/-!
# The grammar of dice expressions

The grammar knows integers and throws.  An integer is digits with at most one sign in front
(`Numeral.IsInteger`).  A throw is a number of dice, which may be left off, the letter, a number of
sides and perhaps a sign with one more number (`Throw`).  The numbers of a throw are digits alone
(`Dice.Documented`).

The reader of these numbers passes over a plus.  The sides end at the first sign, so they never
have one, but the other two numbers may.  So `isDice` accepts the texts of the grammar, and those of
throws with a plus in front of the number of dice or after the sign.  The latter are no texts of the
grammar (`Dice.isDice_exact`).
-/

namespace EffectFlow

/-! ## Numerals -/

namespace Numeral

/-- The text is digits, and not empty. -/
def IsDigits (text : List Char) : Prop := text ≠ [] ∧ ∀ c ∈ text, c.isDigit = true

/-- The text is the digits of a number of 32 bits. -/
def IsNumeral (text : List Char) : Prop := IsDigits text ∧ ofDigits 0 text < words32

/-- The text is an integer of 64 bits: digits, with at most one sign in front. -/
inductive IsInteger : List Char → Prop where
  /-- Digits. -/
  | bare {digits : List Char} : IsDigits digits → (ofDigits 0 digits : Int) ≤ maxSigned64 →
      IsInteger digits
  /-- A plus and digits. -/
  | plus {digits : List Char} : IsDigits digits → (ofDigits 0 digits : Int) ≤ maxSigned64 →
      IsInteger ('+' :: digits)
  /-- A minus and digits. -/
  | minus {digits : List Char} : IsDigits digits → minSigned64 ≤ -(ofDigits 0 digits : Int) →
      IsInteger ('-' :: digits)

/-- The text is a numeral, perhaps with a plus in front. -/
inductive MayHavePlus : List Char → Prop where
  /-- A numeral. -/
  | bare {digits : List Char} : IsNumeral digits → MayHavePlus digits
  /-- A plus and a numeral. -/
  | plus {digits : List Char} : IsNumeral digits → MayHavePlus ('+' :: digits)

variable {text : List Char}

theorem IsDigits.head {c : Char} {rest : List Char} (digits : IsDigits (c :: rest)) :
    c.isDigit = true :=
  digits.2 c List.mem_cons_self

theorem not_isDigits_plus {rest : List Char} : ¬IsDigits ('+' :: rest) := fun digits =>
  absurd digits.head (by decide)

theorem not_isDigits_minus {rest : List Char} : ¬IsDigits ('-' :: rest) := fun digits =>
  absurd digits.head (by decide)

theorem MayHavePlus.resolve_plus (looks : MayHavePlus text)
    (other : ∀ rest, text ≠ '+' :: rest) : IsNumeral text := by
  cases looks with
  | bare numeral => exact numeral
  | plus numeral => exact absurd rfl (other _)

/-- Exactly digits are read as a natural number, and as the one they spell. -/
theorem natural?_eq_some_iff {n : Nat} :
    natural? text = some n ↔ IsDigits text ∧ ofDigits 0 text = n := by
  have spelled : (text.isEmpty || !text.all Char.isDigit) = false ↔ IsDigits text := by
    rw [Bool.or_eq_false_iff, Bool.not_eq_false', List.all_eq_true, List.isEmpty_eq_false_iff]
    rfl
  rw [natural?, ← spelled]
  cases text.isEmpty || !text.all Char.isDigit <;> simp

theorem filter_natural?_eq_some_iff {n : Nat} :
    (natural? text).filter (· < words32) = some n ↔ IsNumeral text ∧ ofDigits 0 text = n := by
  rw [Option.filter_eq_some_iff, natural?_eq_some_iff, decide_eq_true_eq]
  constructor
  · rintro ⟨⟨digits, rfl⟩, small⟩
    exact ⟨⟨digits, small⟩, rfl⟩
  · rintro ⟨⟨digits, small⟩, rfl⟩
    exact ⟨⟨digits, rfl⟩, small⟩

theorem unsigned?_of_ne_plus (other : ∀ rest, text ≠ '+' :: rest) :
    unsigned? text = (natural? text).filter (· < words32) := by
  rw [unsigned?]
  exact other

/-- Without a plus in front, a numeral is digits. -/
theorem unsigned?_eq_some_iff (other : '+' ∉ text) {n : Nat} :
    unsigned? text = some n ↔ IsNumeral text ∧ ofDigits 0 text = n := by
  have bare : ∀ rest, text ≠ '+' :: rest := by
    rintro rest rfl
    exact other List.mem_cons_self
  rw [unsigned?_of_ne_plus bare, filter_natural?_eq_some_iff]

/-- A number of 32 bits is read from a numeral, with a plus in front or without. -/
theorem isSome_unsigned?_iff : (unsigned? text).isSome = true ↔ MayHavePlus text := by
  rw [Option.isSome_iff_exists]
  constructor
  · rintro ⟨n, read⟩
    by_cases plus : ∃ rest, text = '+' :: rest
    · obtain ⟨rest, rfl⟩ := plus
      exact .plus (filter_natural?_eq_some_iff.1 read).1
    · rw [unsigned?_of_ne_plus (not_exists.1 plus)] at read
      exact .bare (filter_natural?_eq_some_iff.1 read).1
  · intro numeral
    cases numeral with
    | bare numeral =>
      have other : ∀ rest, text ≠ '+' :: rest := by
        rintro rest rfl
        exact not_isDigits_plus numeral.1
      rw [unsigned?_of_ne_plus other]
      exact ⟨_, filter_natural?_eq_some_iff.2 ⟨numeral, rfl⟩⟩
    | plus numeral => exact ⟨_, filter_natural?_eq_some_iff.2 ⟨numeral, rfl⟩⟩

/-- Digits with a sign are read if their number is in range. -/
theorem isSome_filter_map_natural?_iff {sign : Nat → Int} :
    (((natural? text).map sign).filter fun n => minSigned64 ≤ n && n ≤ maxSigned64).isSome = true ↔
      IsDigits text ∧
        minSigned64 ≤ sign (ofDigits 0 text) ∧ sign (ofDigits 0 text) ≤ maxSigned64 := by
  rw [Option.isSome_iff_exists]
  constructor
  · rintro ⟨m, found⟩
    obtain ⟨read, range⟩ := Option.filter_eq_some_iff.1 found
    obtain ⟨n, spelled, rfl⟩ := Option.map_eq_some_iff.1 read
    obtain ⟨digits, rfl⟩ := natural?_eq_some_iff.1 spelled
    rw [Bool.and_eq_true, decide_eq_true_eq, decide_eq_true_eq] at range
    exact ⟨digits, range⟩
  · rintro ⟨digits, least, most⟩
    rw [natural?_eq_some_iff.2 ⟨digits, rfl⟩, Option.map_some]
    exact ⟨_, Option.filter_some_pos (by simp [least, most])⟩

theorem signed?_minus (digits : List Char) :
    signed? ('-' :: digits) =
      ((natural? digits).map fun n : Nat => -(n : Int)).filter fun n =>
        minSigned64 ≤ n && n ≤ maxSigned64 := by
  show (((natural? digits).bind fun n => some (n : Int)).map fun n => -n).filter _ = _
  cases natural? digits <;> rfl

/-- An integer is read exactly from the texts that are integers of 64 bits. -/
theorem isSome_signed?_iff : (signed? text).isSome = true ↔ IsInteger text := by
  have natural (n : Nat) : minSigned64 ≤ (n : Int) :=
    Int.le_trans (by decide) (Int.natCast_nonneg n)
  have negative (n : Nat) : -(n : Int) ≤ maxSigned64 :=
    Int.le_trans (Int.neg_nonpos_of_nonneg (Int.natCast_nonneg n)) (by decide)
  constructor
  · intro read
    unfold signed? at read
    split at read
    · obtain ⟨digits, -, most⟩ := isSome_filter_map_natural?_iff.1 read
      exact .plus digits most
    · next rest =>
      have spelled : (signed? ('-' :: rest)).isSome = true := read
      rw [signed?_minus] at spelled
      obtain ⟨digits, least, -⟩ := isSome_filter_map_natural?_iff.1 spelled
      exact .minus digits least
    · obtain ⟨digits, -, most⟩ := isSome_filter_map_natural?_iff.1 read
      exact .bare digits most
  · intro integer
    cases integer with
    | bare digits most =>
      have read := isSome_filter_map_natural?_iff.2 ⟨digits, natural _, most⟩
      unfold signed?
      split
      · exact absurd digits not_isDigits_plus
      · exact absurd digits not_isDigits_minus
      · exact read
    | plus digits most => exact isSome_filter_map_natural?_iff.2 ⟨digits, natural _, most⟩
    | minus digits least =>
      rw [signed?_minus]
      exact isSome_filter_map_natural?_iff.2 ⟨digits, least, negative _⟩

end Numeral

/-! ## Throws -/

namespace Dice

open Numeral (IsDigits IsNumeral IsInteger MayHavePlus)

/-- What stands after the letter of a throw. -/
structure Back where
  /-- The number of sides. -/
  sides : List Char
  /-- What is added or subtracted, if anything: the sign and the number. -/
  modifier : Option (Char × List Char)

/-- A throw of dice as it is spelled. -/
structure Throw where
  /-- The number of dice, or nothing. -/
  count : List Char
  /-- The letter. -/
  letter : Char
  /-- The sides and the modifier. -/
  back : Back

/-- The text after the letter. -/
def Back.text (b : Back) : List Char :=
  b.sides ++
    match b.modifier with
    | some (sign, number) => sign :: number
    | none => []

/-- The text of a throw. -/
def Throw.text (t : Throw) : List Char := t.count ++ t.letter :: t.back.text

/-- The sides are digits of a positive number, and the modifier is a sign and a number that looks
right. -/
structure Back.Spelled (looks : List Char → Prop) (b : Back) : Prop where
  sides : IsNumeral b.sides ∧ 0 < Numeral.ofDigits 0 b.sides
  modifier : ∀ sign number, b.modifier = some (sign, number) → isSign sign = true ∧ looks number

/-- The number of dice looks right, if it is there, and so does what stands after the letter. -/
structure Throw.Spelled (looks : List Char → Prop) (t : Throw) : Prop where
  count : t.count = [] ∨ looks t.count
  letter : isDieLetter t.letter = true
  back : t.back.Spelled looks

/-- A plus stands in front of the number of dice, or between the sign and its number. -/
def Throw.HasPlus (t : Throw) : Prop :=
  (∃ rest, t.count = '+' :: rest) ∨ ∃ sign rest, t.back.modifier = some (sign, '+' :: rest)

/-- The text is an integer, or a throw whose numbers are digits. -/
def Documented (text : List Char) : Prop :=
  IsInteger text ∨ ∃ t : Throw, t.Spelled IsNumeral ∧ t.text = text

/-- The text is a throw with a plus in front of digits. -/
def Overmarked (text : List Char) : Prop :=
  ∃ t : Throw, t.Spelled MayHavePlus ∧ t.HasPlus ∧ t.text = text

/-! ### Letters, signs and digits -/

theorem isSign_of_isDigit {c : Char} (digit : c.isDigit = true) : isSign c = false := by
  rw [isSign, Bool.or_eq_false_iff, beq_eq_false_iff_ne, beq_eq_false_iff_ne]
  constructor
  · rintro rfl
    exact absurd digit (by decide)
  · rintro rfl
    exact absurd digit (by decide)

theorem isDieLetter_of_isDigit {c : Char} (digit : c.isDigit = true) : isDieLetter c = false := by
  rw [isDieLetter, Bool.or_eq_false_iff, beq_eq_false_iff_ne, beq_eq_false_iff_ne]
  constructor
  · rintro rfl
    exact absurd digit (by decide)
  · rintro rfl
    exact absurd digit (by decide)

/-- No number has a letter, with a plus or without. -/
theorem isDieLetter_of_mem {number : List Char} (looks : MayHavePlus number) :
    ∀ c ∈ number, isDieLetter c = false := by
  intro c mem
  cases looks with
  | bare numeral => exact isDieLetter_of_isDigit (numeral.1.2 c mem)
  | plus numeral =>
    rcases List.mem_cons.1 mem with rfl | later
    · decide
    · exact isDieLetter_of_isDigit (numeral.1.2 c later)

/-- No integer has a letter. -/
theorem isDieLetter_of_mem_integer {text : List Char} (integer : IsInteger text) :
    ∀ c ∈ text, isDieLetter c = false := by
  intro c mem
  cases integer with
  | bare digits => exact isDieLetter_of_isDigit (digits.2 c mem)
  | plus digits | minus digits =>
    rcases List.mem_cons.1 mem with rfl | later
    · decide
    · exact isDieLetter_of_isDigit (digits.2 c later)

/-! ### The parts of a throw -/

/-- The first sign after the letter is that of the modifier. -/
theorem Back.cut?_text {looks : List Char → Prop} {b : Back} (spelled : b.Spelled looks) :
    Text.cut? isSign b.text = b.modifier.map fun m => (b.sides, m.2) := by
  have bare : ∀ c ∈ b.sides, isSign c = false := fun c mem =>
    isSign_of_isDigit (spelled.sides.1.1.2 c mem)
  obtain ⟨sides, modifier⟩ := b
  cases modifier with
  | none =>
    rw [text, List.append_nil]
    exact Text.cut?_eq_none_iff.2 bare
  | some m =>
    obtain ⟨sign, number⟩ := m
    exact Text.cut?_append bare (spelled.modifier sign number rfl).1 number

namespace Throw

variable {t u : Throw}

/-- The first letter of a throw is its own. -/
theorem cut?_text (spelled : t.Spelled MayHavePlus) :
    Text.cut? isDieLetter t.text = some (t.count, t.back.text) := by
  refine Text.cut?_append (fun c mem => ?_) spelled.letter t.back.text
  rcases spelled.count with empty | looks
  · rw [empty] at mem
    cases mem
  · exact isDieLetter_of_mem looks c mem

/-- The text of a throw tells where it has a plus. -/
theorem HasPlus.of_text (plus : t.HasPlus) (spelled : t.Spelled MayHavePlus)
    (spelled' : u.Spelled MayHavePlus) (same : t.text = u.text) : u.HasPlus := by
  have cut := (cut?_text spelled).symm.trans ((congrArg _ same).trans (cut?_text spelled'))
  obtain ⟨count, back⟩ := Prod.mk.inj (Option.some.inj cut)
  rcases plus with ⟨rest, front⟩ | ⟨sign, rest, inner⟩
  · exact .inl ⟨rest, count.symm.trans front⟩
  · have numbers := (Back.cut?_text spelled.back).symm.trans
      ((congrArg _ back).trans (Back.cut?_text spelled'.back))
    rw [inner, Option.map_some, eq_comm] at numbers
    obtain ⟨⟨sign', number⟩, inner', eq⟩ := Option.map_eq_some_iff.1 numbers
    obtain ⟨-, rfl⟩ := Prod.mk.inj eq
    exact .inr ⟨sign', rest, inner'⟩

/-- The numbers of a throw are digits exactly if none has a plus. -/
theorem spelled_isNumeral_iff : t.Spelled IsNumeral ↔ t.Spelled MayHavePlus ∧ ¬t.HasPlus := by
  constructor
  · intro spelled
    refine ⟨⟨spelled.count.imp_right .bare, spelled.letter, spelled.back.sides,
      fun sign number inner => (spelled.back.modifier sign number inner).imp_right .bare⟩, ?_⟩
    rintro (⟨rest, front⟩ | ⟨sign, rest, inner⟩)
    · rcases spelled.count with empty | numeral
      · cases empty.symm.trans front
      · rw [front] at numeral
        exact Numeral.not_isDigits_plus numeral.1
    · exact Numeral.not_isDigits_plus (spelled.back.modifier sign _ inner).2.1
  · rintro ⟨spelled, noPlus⟩
    refine ⟨spelled.count.imp_right fun looks => ?_, spelled.letter, spelled.back.sides,
      fun sign number inner => ?_⟩
    · exact looks.resolve_plus fun rest front => noPlus (.inl ⟨rest, front⟩)
    · obtain ⟨isSign, looks⟩ := spelled.back.modifier sign number inner
      refine ⟨isSign, looks.resolve_plus ?_⟩
      rintro rest rfl
      exact noPlus (.inr ⟨sign, rest, inner⟩)

/-- A throw has a letter, so it is no integer. -/
theorem not_isInteger (spelled : t.Spelled MayHavePlus) : ¬IsInteger t.text := by
  intro integer
  have none := isDieLetter_of_mem_integer integer t.letter
    (List.mem_append_right _ List.mem_cons_self)
  exact Bool.false_ne_true (none.symm.trans spelled.letter)

end Throw

/-! ### The reader -/

/-- Sides are a numeral of a positive number. -/
theorem isSides_iff {sides : List Char} (bare : ∀ c ∈ sides, isSign c = false) :
    isSides sides = true ↔ IsNumeral sides ∧ 0 < Numeral.ofDigits 0 sides := by
  have noPlus : '+' ∉ sides := fun mem => absurd (bare '+' mem) (by decide)
  rw [isSides]
  split
  · next n read =>
    obtain ⟨numeral, rfl⟩ := (Numeral.unsigned?_eq_some_iff noPlus).1 read
    rw [decide_eq_true_eq]
    exact (and_iff_right numeral).symm
  · next unread =>
    refine iff_of_false Bool.false_ne_true fun both => ?_
    rw [(Numeral.unsigned?_eq_some_iff noPlus).2 ⟨both.1, rfl⟩] at unread
    cases unread

/-- What is accepted after the letter. -/
theorem isSidesAndModifier_iff {text : List Char} :
    isSidesAndModifier text = true ↔ ∃ b : Back, b.Spelled MayHavePlus ∧ b.text = text := by
  constructor
  · intro accepted
    rw [isSidesAndModifier] at accepted
    split at accepted
    · next sides number cut =>
      obtain ⟨bare, sign, here, rfl⟩ := Text.of_cut? cut
      rw [Bool.and_eq_true, isSides_iff bare, Numeral.isSome_unsigned?_iff] at accepted
      refine ⟨⟨sides, some (sign, number)⟩, ⟨accepted.1, ?_⟩, rfl⟩
      rintro _ _ ⟨⟩
      exact ⟨here, accepted.2⟩
    · next uncut =>
      rw [isSides_iff (Text.cut?_eq_none_iff.1 uncut)] at accepted
      exact ⟨⟨text, none⟩, ⟨accepted, fun _ _ none => nomatch none⟩, List.append_nil text⟩
  · rintro ⟨b, spelled, rfl⟩
    have sides := (isSides_iff fun c mem =>
      isSign_of_isDigit (spelled.sides.1.1.2 c mem)).2 spelled.sides
    rw [isSidesAndModifier, Back.cut?_text spelled]
    obtain ⟨_, modifier⟩ := b
    cases modifier with
    | none => simpa [Back.text] using sides
    | some m =>
      have looks := (spelled.modifier m.1 m.2 rfl).2
      exact Bool.and_eq_true_iff.2 ⟨sides, Numeral.isSome_unsigned?_iff.2 looks⟩

/-- What is accepted: integers, and throws whose numbers may have a plus. -/
theorem isDice_iff {s : String} :
    isDice s = true ↔ IsInteger (Text.trim s.toList) ∨
      ∃ t : Throw, t.Spelled MayHavePlus ∧ t.text = Text.trim s.toList := by
  rw [isDice, Bool.or_eq_true, Numeral.isSome_signed?_iff]
  refine or_congr_right ⟨fun accepted => ?_, ?_⟩
  · split at accepted
    · next count rest cut =>
      rw [Bool.and_eq_true, Bool.or_eq_true, List.isEmpty_iff, Numeral.isSome_unsigned?_iff,
        isSidesAndModifier_iff] at accepted
      obtain ⟨looks, back, spelled, rfl⟩ := accepted
      obtain ⟨-, letter, here, text⟩ := Text.of_cut? cut
      exact ⟨⟨count, letter, back⟩, ⟨looks, here, spelled⟩, text.symm⟩
    · cases accepted
  · rintro ⟨t, spelled, text⟩
    rw [← text, Throw.cut?_text spelled]
    have count : (t.count.isEmpty || (Numeral.unsigned? t.count).isSome) = true := by
      rw [Bool.or_eq_true, List.isEmpty_iff, Numeral.isSome_unsigned?_iff]
      exact spelled.count
    exact Bool.and_eq_true_iff.2 ⟨count, isSidesAndModifier_iff.2 ⟨t.back, spelled.back, rfl⟩⟩

/-- No text of the grammar has a plus in front of the digits of a throw. -/
theorem not_documented_of_overmarked {text : List Char} (overmarked : Overmarked text) :
    ¬Documented text := by
  obtain ⟨t, spelled, plus, rfl⟩ := overmarked
  rintro (integer | ⟨u, spelled', same⟩)
  · exact Throw.not_isInteger spelled integer
  · obtain ⟨loose, noPlus⟩ := Throw.spelled_isNumeral_iff.1 spelled'
    exact noPlus (plus.of_text spelled loose same.symm)

/-- A text is accepted if, without the blanks around it, it is one of the grammar, or a throw with a
plus in front of its number of dice or of the number after its sign.  It is not both. -/
theorem isDice_exact (s : String) :
    (isDice s = true ↔ Documented (Text.trim s.toList) ∨ Overmarked (Text.trim s.toList)) ∧
      ¬(Documented (Text.trim s.toList) ∧ Overmarked (Text.trim s.toList)) := by
  refine ⟨isDice_iff.trans ?_, fun both => not_documented_of_overmarked both.2 both.1⟩
  rw [Documented, Overmarked, or_assoc]
  refine or_congr_right ⟨?_, ?_⟩
  · rintro ⟨t, spelled, text⟩
    by_cases plus : t.HasPlus
    · exact .inr ⟨t, spelled, plus, text⟩
    · exact .inl ⟨t, Throw.spelled_isNumeral_iff.2 ⟨spelled, plus⟩, text⟩
  · rintro (⟨t, spelled, text⟩ | ⟨t, spelled, -, text⟩)
    · exact ⟨t, (Throw.spelled_isNumeral_iff.1 spelled).1, text⟩
    · exact ⟨t, spelled, text⟩

/-- A plus in front of the number of dice is accepted, and it is not in the grammar. -/
theorem accepted_and_undocumented :
    isDice "+2d6" = true ∧ ¬Documented (Text.trim "+2d6".toList) := by
  have digits {c : Char} (digit : c.isDigit = true) : IsDigits [c] :=
    ⟨List.cons_ne_nil c [], List.forall_mem_singleton.2 digit⟩
  have numeral : IsNumeral ['2'] ∧ IsNumeral ['6'] :=
    ⟨⟨digits (by decide), by decide⟩, digits (by decide), by decide⟩
  refine ⟨by decide, not_documented_of_overmarked ⟨⟨['+', '2'], 'd', ⟨['6'], none⟩⟩,
    ⟨.inr (.plus numeral.1), by decide, ⟨numeral.2, by decide⟩, fun _ _ none => nomatch none⟩,
    .inl ⟨['2'], rfl⟩, by decide⟩⟩

end Dice

end EffectFlow
