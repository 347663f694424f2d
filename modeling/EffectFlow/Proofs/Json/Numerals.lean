import Mathlib.Data.List.TakeWhile
import EffectFlow.Json.Parser

/-!
# Numbers that read back

The reader of numbers stops by itself.  What it takes of a text it also takes when the text goes
on, as long as it goes on with a character that no number has (`number?_append`).

`Number.ReadsBack` says that the text of a number stands for that number.  Doubles may fail this,
because a significand of many digits is rounded before it is scaled.  Integers never fail it
(`Number.readsBack_integer`).
-/

namespace EffectFlow.Json

/-! ## Where a number ends -/

/-- The text does not begin with a character that a number may go on with. -/
def Stops (text : List Char) : Prop :=
  ∀ c rest, text = c :: rest → c.isDigit = false ∧ c ≠ '.' ∧ c ≠ 'e' ∧ c ≠ 'E'

theorem stops_nil : Stops [] := by
  intro c rest h
  cases h

theorem stops_cons {c : Char} {rest : List Char}
    (h : c.isDigit = false ∧ c ≠ '.' ∧ c ≠ 'e' ∧ c ≠ 'E') : Stops (c :: rest) := by
  intro d more eq
  cases eq
  exact h

theorem Stops.takeWhile {text : List Char} (stops : Stops text) :
    text.takeWhile Char.isDigit = [] := by
  cases text with
  | nil => rfl
  | cons c rest => simp [(stops c rest rfl).1]

theorem Stops.dropWhile {text : List Char} (stops : Stops text) :
    text.dropWhile Char.isDigit = text := by
  cases text with
  | nil => rfl
  | cons c rest => simp [(stops c rest rfl).1]

/-! ## Readers on a text that goes on -/

theorem takeWhile_append {more : List Char} (stops : Stops more) (text : List Char) :
    (text ++ more).takeWhile Char.isDigit = text.takeWhile Char.isDigit := by
  induction text with
  | nil => exact stops.takeWhile
  | cons c rest ih =>
    rw [List.cons_append, List.takeWhile_cons, List.takeWhile_cons, ih]

theorem dropWhile_append {more : List Char} (stops : Stops more) (text : List Char) :
    (text ++ more).dropWhile Char.isDigit = text.dropWhile Char.isDigit ++ more := by
  induction text with
  | nil => exact stops.dropWhile
  | cons c rest ih =>
    rw [List.cons_append, List.dropWhile_cons, List.dropWhile_cons, ih]
    split <;> rfl

/-- Digits are read the same in front of a text that stops them. -/
theorem digits?_append {text digits rest more : List Char}
    (h : digits? text = some (digits, rest)) (stops : Stops more) :
    digits? (text ++ more) = some (digits, rest ++ more) := by
  simp only [digits?] at h
  simp only [digits?, takeWhile_append stops, dropWhile_append stops]
  split at h
  · cases h
  · next nonempty =>
    cases h
    rw [if_neg nonempty]

theorem whole?_append {text digits rest more : List Char}
    (h : whole? text = some (digits, rest)) (stops : Stops more) :
    whole? (text ++ more) = some (digits, rest ++ more) := by
  have read : digits? text = some (digits, rest) := by
    simp only [whole?] at h
    split at h
    · cases h
    · exact h
  simp only [whole?, read] at h
  simp only [whole?, digits?_append read stops]
  split
  · next d ds r eq =>
    cases eq
    cases h
  · rfl

theorem fraction?_append {text rest more : List Char} {fraction : Option (List Char)}
    (h : fraction? text = some (fraction, rest)) (stops : Stops more) :
    fraction? (text ++ more) = some (fraction, rest ++ more) := by
  cases text with
  | nil =>
    simp only [fraction?, Option.some.injEq, Prod.mk.injEq] at h
    obtain ⟨rfl, rfl⟩ := h
    cases more with
    | nil => rfl
    | cons c tail => simp [fraction?, (stops c tail rfl).2.1]
  | cons c tail =>
    simp only [fraction?, List.cons_append] at h ⊢
    split at h
    · next point =>
      obtain ⟨⟨digits, after⟩, read, eq⟩ := Option.map_eq_some_iff.1 h
      cases eq
      rw [if_pos point, digits?_append read stops, Option.map_some]
    · next point =>
      cases h
      rw [if_neg point, List.cons_append]

theorem exponent?_append {text rest more : List Char} {exponent : Option (Bool × List Char)}
    (h : exponent? text = some (exponent, rest)) (stops : Stops more) :
    exponent? (text ++ more) = some (exponent, rest ++ more) := by
  cases text with
  | nil =>
    simp only [exponent?, Option.some.injEq, Prod.mk.injEq] at h
    obtain ⟨rfl, rfl⟩ := h
    cases more with
    | nil => rfl
    | cons c tail => simp [exponent?, (stops c tail rfl).2.2]
  | cons c tail =>
    simp only [exponent?, List.cons_append] at h ⊢
    split at h
    · next letter =>
      cases tail with
      | nil => cases h
      | cons s tail =>
        obtain ⟨⟨digits, after⟩, read, eq⟩ := Option.map_eq_some_iff.1 h
        cases eq
        simp only [letter, if_true, List.cons_append]
        split
        · next sign =>
          rw [if_pos sign] at read
          rw [digits?_append read stops, Option.map_some]
        · next sign =>
          rw [if_neg sign] at read
          rw [← List.cons_append, digits?_append read stops, Option.map_some]
    · next letter =>
      cases h
      rw [if_neg letter, List.cons_append]

theorem unsignedNumber?_append {negative : Bool} {text rest more : List Char} {token : NumberToken}
    (h : unsignedNumber? negative text = some (token, rest)) (stops : Stops more) :
    unsignedNumber? negative (text ++ more) = some (token, rest ++ more) := by
  simp only [unsignedNumber?, Option.bind_eq_bind, Option.bind_eq_some_iff] at h
  obtain ⟨⟨whole, r₁⟩, h₁, ⟨fraction, r₂⟩, h₂, ⟨exponent, r₃⟩, h₃, eq⟩ := h
  cases eq
  simp [unsignedNumber?, whole?_append h₁ stops, fraction?_append h₂ stops,
    exponent?_append h₃ stops]

/-- A number that was read is read again when the text goes on. -/
theorem number?_append {text rest more : List Char} {token : NumberToken}
    (h : number? text = some (token, rest)) (stops : Stops more) :
    number? (text ++ more) = some (token, rest ++ more) := by
  cases text with
  | nil => cases h
  | cons c tail =>
    simp only [number?, List.cons_append] at h ⊢
    split at h
    · next minus => rw [if_pos minus, unsignedNumber?_append h stops]
    · next minus => rw [if_neg minus, ← List.cons_append, unsignedNumber?_append h stops]

/-! ## Decimal digits -/

theorem isDigit_of_mem_decimalDigits {n : Nat} {c : Char} (h : c ∈ decimalDigits n) :
    c.isDigit = true :=
  Nat.isDigit_of_mem_toDigits (by decide) (by decide) h

/-- An integer is written in messages as in JSON. -/
theorem toList_toString_int (n : Int) :
    (toString n).toList =
      if n < 0 then '-' :: decimalDigits n.natAbs else decimalDigits n.natAbs := by
  cases n with
  | ofNat m =>
    have natural : ¬Int.ofNat m < 0 := Int.not_lt.2 (Int.natCast_nonneg m)
    rw [if_neg natural]
    exact String.toList_ofList
  | negSucc m =>
    rw [if_pos (Int.negSucc_lt_zero m)]
    show ("-" ++ Nat.repr (m + 1)).toList = _
    rw [String.toList_append]
    exact congrArg _ String.toList_ofList

theorem digits?_decimalDigits (n : Nat) :
    digits? (decimalDigits n) = some (decimalDigits n, []) := by
  have digits : ∀ c ∈ decimalDigits n, c.isDigit = true := fun _ h => isDigit_of_mem_decimalDigits h
  have take : (decimalDigits n).takeWhile Char.isDigit = decimalDigits n :=
    List.takeWhile_eq_self_iff.2 digits
  have drop : (decimalDigits n).dropWhile Char.isDigit = [] := List.dropWhile_eq_nil_iff.2 digits
  have nonempty : decimalDigits n ≠ [] := Nat.toDigits_ne_nil
  simp [digits?, take, drop, nonempty]

theorem digitChar_ne_zero : ∀ d, d < 10 → 0 < d → Nat.digitChar d ≠ '0' := by decide

/-- The digits of a positive number do not begin with a zero. -/
theorem head?_decimalDigits_ne (n : Nat) (pos : 0 < n) : (decimalDigits n).head? ≠ some '0' := by
  induction n using Nat.strongRecOn with
  | ind n ih =>
    by_cases small : n < 10
    · rw [decimalDigits, Nat.toDigits_of_lt_base small, List.head?_cons]
      intro eq
      exact digitChar_ne_zero n small pos (Option.some.inj eq)
    · have tenth := ih (n / 10) (by omega) (by omega)
      rw [decimalDigits, Nat.toDigits_of_base_le (by decide) (by omega), List.head?_append]
      cases digits : Nat.toDigits 10 (n / 10) with
      | nil => exact absurd digits Nat.toDigits_ne_nil
      | cons d rest =>
        rw [decimalDigits, digits] at tenth
        exact tenth

/-- Decimal digits have no leading zero, so they are read as a whole part. -/
theorem whole?_decimalDigits (n : Nat) : whole? (decimalDigits n) = some (decimalDigits n, []) := by
  simp only [whole?, digits?_decimalDigits]
  split
  · next d ds r eq =>
    simp only [Option.some.injEq, Prod.mk.injEq] at eq
    rcases Nat.eq_zero_or_pos n with rfl | pos
    · exact absurd eq.1 (by simp [decimalDigits])
    · exact absurd (by rw [eq.1]; rfl) (head?_decimalDigits_ne n pos)
  · rfl

theorem le_ofDigits (start : Nat) (digits : List Char) : start ≤ Numeral.ofDigits start digits := by
  induction digits generalizing start with
  | nil => exact Nat.le_refl start
  | cons c rest ih =>
    have := ih (10 * start + Numeral.digitValue c)
    simp only [Numeral.ofDigits, List.foldl_cons] at this ⊢
    omega

/-- Digits whose number fits are all taken. -/
theorem absorb_of_le {value taken : Nat} {digits : List Char}
    (h : Numeral.ofDigits value digits ≤ maxUnsigned64) :
    Number.Significand.absorb value taken digits =
      ⟨Numeral.ofDigits value digits, taken + digits.length, 0⟩ := by
  induction digits generalizing value taken with
  | nil => rfl
  | cons c rest ih =>
    have rest_le : Numeral.ofDigits (10 * value + Numeral.digitValue c) rest ≤ maxUnsigned64 := h
    have next_le := Nat.le_trans (le_ofDigits _ rest) rest_le
    rw [Number.Significand.absorb, if_pos next_le, ih rest_le]
    simp only [Numeral.ofDigits, List.foldl_cons, List.length_cons, Number.Significand.mk.injEq,
      true_and, and_true]
    omega

/-- The value of the decimal digits of a number is the number. -/
theorem ofDigits_decimalDigits (n : Nat) : Numeral.ofDigits 0 (decimalDigits n) = n :=
  Nat.ofDigitChars_ten_toDigits

/-! ## Writing -/

/-- A decimal is written with one character at least, whatever the layout. -/
theorem write_ne_nil (layout : NumberLayout) (d : Decimal) : layout.write d ≠ [] := by
  have digits : decimalDigits d.digits ≠ [] := Nat.toDigits_ne_nil
  rw [NumberLayout.write]
  split
  · exact List.cons_ne_nil _ _
  · dsimp only
    split
    · rw [NumberLayout.positional]
      split
      · exact List.append_ne_nil_of_left_ne_nil (List.append_ne_nil_of_left_ne_nil digits _) _
      · split
        · exact List.append_ne_nil_of_right_ne_nil _ (List.cons_ne_nil _ _)
        · exact List.cons_ne_nil _ _
    · rw [NumberLayout.scientific]
      simp

theorem text_ne_nil (n : Number) : n.text ≠ [] := by
  cases n with
  | integer n fits => exact List.append_ne_nil_of_right_ne_nil _ Nat.toDigits_ne_nil
  | float x => exact List.append_ne_nil_of_right_ne_nil _ (write_ne_nil _ _)

/-! ## Reading back -/

namespace Number

/-- The reader takes all of the text of the number, and finds the number. -/
def ReadsBack (n : Number) : Prop :=
  ∃ token, number? n.text = some (token, []) ∧ ofToken? token = some n

/-- The text of the digits of a natural number stands for the integer with that sign. -/
theorem ofToken?_decimalDigits {n : Nat} (h : n ≤ maxUnsigned64) (negative : Bool) :
    ofToken? ⟨negative, decimalDigits n, none, none⟩ = some (ofWhole negative n) := by
  have fits : Numeral.ofDigits 0 (decimalDigits n) ≤ maxUnsigned64 := by
    rwa [ofDigits_decimalDigits]
  simp [ofToken?, absorb_of_le fits, ofDigits_decimalDigits]

theorem unsignedNumber?_decimalDigits (n : Nat) (negative : Bool) :
    unsignedNumber? negative (decimalDigits n) =
      some (⟨negative, decimalDigits n, none, none⟩, []) := by
  simp [unsignedNumber?, whole?_decimalDigits, fraction?, exponent?]

/-- An integer reads back. -/
theorem readsBack_integer (n : Int) (fits : FitsWord n) : (integer n fits).ReadsBack := by
  have le : n.natAbs ≤ maxUnsigned64 := by
    simp only [FitsWord, minSigned64, maxUnsigned64] at fits ⊢
    omega
  refine ⟨⟨decide (n < 0), decimalDigits n.natAbs, none, none⟩, ?_, ?_⟩
  · by_cases neg : n < 0
    · simp [text, neg, number?, unsignedNumber?_decimalDigits]
    · have head : ∃ c rest, decimalDigits n.natAbs = c :: rest :=
        List.exists_cons_of_ne_nil Nat.toDigits_ne_nil
      obtain ⟨c, rest, eq⟩ := head
      have digit : c.isDigit = true :=
        isDigit_of_mem_decimalDigits (n := n.natAbs) (by rw [eq]; exact List.mem_cons_self)
      have plain : c ≠ '-' := by
        rintro rfl
        exact absurd digit (by decide)
      have read := unsignedNumber?_decimalDigits n.natAbs false
      rw [eq] at read
      simp [text, neg, eq, number?, plain, read]
  · rw [ofToken?_decimalDigits le]
    by_cases neg : n < 0
    · have nonzero : n.natAbs ≠ 0 := by omega
      have back : -(n.natAbs : Int) = n := by omega
      simp only [ofWhole, ofInt?, back, dif_pos fits, neg, nonzero, decide_true, if_true, if_false]
    · have back : (n.natAbs : Int) = n := by omega
      simp only [ofWhole, ofInt?, back, dif_pos fits, neg, decide_false, Bool.false_eq_true,
        if_false]

end Number

end EffectFlow.Json
