import EffectFlow.Fields.Rule
import EffectFlow.Proofs.Json.Values
import Mathlib.Data.List.DropRight

/-!
# References that read back

A reference is written as the text of a zone, a colon and the text of a number.  It is read back
as the same two values if each *reads as a part* (`ReadsAsPart`) and the text of the zone has no
colon (`FieldRule.referenceParts?_text`).

Signed words read as parts (`readsAsPart_int64`), and so does every value that was read from a part
that is not blank (`readsAsPart_referencePart`).
-/

namespace EffectFlow

open Json (Value Number)

/-! ## Trimming -/

namespace Text

theorem trim_eq_rdropWhile (text : List Char) :
    trim text = (text.dropWhile isBlank).rdropWhile isBlank := rfl

theorem head_trim {text rest : List Char} {c : Char} (h : trim text = c :: rest) :
    isBlank c = false := by
  obtain ⟨after, eq⟩ := List.rdropWhile_prefix isBlank (text.dropWhile isBlank)
  rw [← trim_eq_rdropWhile, h, List.cons_append] at eq
  have first := List.head?_dropWhile_not isBlank text
  rw [← eq] at first
  exact first

/-- A text that was trimmed has no blanks at its ends. -/
theorem trim_trim (text : List Char) : trim (trim text) = trim text := by
  have front : (trim text).dropWhile isBlank = trim text := by
    cases eq : trim text with
    | nil => rfl
    | cons c rest => rw [List.dropWhile_cons, if_neg (by simp [head_trim eq])]
  rw [trim_eq_rdropWhile (trim text), front, trim_eq_rdropWhile text]
  exact List.rdropWhile_idempotent isBlank _

/-- A text without blanks stays as it is. -/
theorem trim_of_forall {text : List Char} (h : ∀ c ∈ text, isBlank c = false) :
    trim text = text := by
  have solid : text.dropWhile isBlank = text := by
    cases text with
    | nil => rfl
    | cons c rest => rw [List.dropWhile_cons, if_neg (by simp [h c List.mem_cons_self])]
  rw [trim_eq_rdropWhile, solid, List.rdropWhile_eq_self_iff]
  intro nonempty
  simp [h _ (List.getLast_mem nonempty)]

theorem mem_of_mem_trim {text : List Char} {c : Char} (h : c ∈ trim text) : c ∈ text :=
  (List.dropWhile_suffix isBlank).subset ((List.rdropWhile_prefix isBlank _).subset h)

theorem trim_eq_nil_iff {text : List Char} : trim text = [] ↔ ∀ c ∈ text, isBlank c = true := by
  rw [trim_eq_rdropWhile, List.rdropWhile_eq_nil_iff]
  constructor
  · intro h c mem
    rw [← List.takeWhile_append_dropWhile (p := isBlank) (l := text), List.mem_append] at mem
    exact mem.elim List.mem_takeWhile_imp (h c)
  · exact fun h c mem => h c ((List.dropWhile_suffix isBlank).subset mem)

/-- A text is cut at the first character of the kind. -/
theorem cut?_append {kind : Char → Bool} {front : List Char} {c : Char}
    (none_of : ∀ d ∈ front, kind d = false) (here : kind c = true) (back : List Char) :
    cut? kind (front ++ c :: back) = some (front, back) := by
  induction front with
  | nil => simp [cut?, here]
  | cons d rest ih =>
    have later := ih fun e mem => none_of e (List.mem_cons_of_mem _ mem)
    simp [cut?, none_of d List.mem_cons_self, later]

theorem cut?_eq_none_iff {kind : Char → Bool} {text : List Char} :
    cut? kind text = none ↔ ∀ c ∈ text, kind c = false := by
  induction text with
  | nil => simp [cut?]
  | cons c rest ih =>
    rw [List.forall_mem_cons, ← ih, cut?]
    cases kind c <;> simp

/-- A cut takes out one character of the kind, and none stands in front of it. -/
theorem of_cut? {kind : Char → Bool} {text front back : List Char}
    (h : cut? kind text = some (front, back)) :
    (∀ d ∈ front, kind d = false) ∧ ∃ c, kind c = true ∧ text = front ++ c :: back := by
  induction text generalizing front with
  | nil => cases h
  | cons c rest ih =>
    simp only [cut?] at h
    split at h
    · next here =>
      cases h
      exact ⟨List.forall_mem_nil _, c, here, rfl⟩
    · next other =>
      obtain ⟨⟨before, after⟩, read, eq⟩ := Option.map_eq_some_iff.1 h
      cases eq
      obtain ⟨none_of, d, here, rfl⟩ := ih read
      refine ⟨fun e mem => ?_, d, here, rfl⟩
      rcases List.mem_cons.1 mem with rfl | mem
      · exact Bool.eq_false_iff.2 other
      · exact none_of e mem

end Text

/-! ## Integers as text -/

theorem isBlank_of_isDigit {c : Char} (h : c.isDigit = true) : Text.isBlank c = false := by
  have range : 48 ≤ c.toNat ∧ c.toNat ≤ 57 := Char.isDigit_iff_toNat.1 h
  simp only [Text.isBlank, Bool.or_eq_false_iff, Bool.and_eq_false_iff, decide_eq_false_iff_not,
    beq_eq_false_iff_ne]
  omega

namespace Json

theorem text_integer (n : Int) (fits : FitsWord n) :
    (Number.integer n fits).text =
      if n < 0 then '-' :: decimalDigits n.natAbs else decimalDigits n.natAbs := by
  rw [Number.text]
  split <;> rfl

/-- An integer is written with digits and a minus. -/
theorem of_mem_text_integer {n : Int} {fits : FitsWord n} {c : Char}
    (h : c ∈ (Number.integer n fits).text) : c = '-' ∨ c.isDigit = true := by
  rw [text_integer] at h
  split at h
  · rcases List.mem_cons.1 h with rfl | h
    · exact .inl rfl
    · exact .inr (isDigit_of_mem_decimalDigits h)
  · exact .inr (isDigit_of_mem_decimalDigits h)

theorem natural?_decimalDigits (n : Nat) : Numeral.natural? (decimalDigits n) = some n := by
  have nonempty : decimalDigits n ≠ [] := Nat.toDigits_ne_nil
  have digits : (decimalDigits n).all Char.isDigit = true :=
    List.all_eq_true.2 fun c h => isDigit_of_mem_decimalDigits h
  simp [Numeral.natural?, nonempty, digits, ofDigits_decimalDigits]

theorem signed?_text {n : Int} {fits : FitsWord n} (small : n ≤ maxSigned64) :
    Numeral.signed? (Number.integer n fits).text = some n := by
  have range : (minSigned64 ≤ n && n ≤ maxSigned64) = true := by simp [fits.1, small]
  rw [text_integer]
  by_cases neg : n < 0
  · have back : -(n.natAbs : Int) = n := by omega
    simp only [neg, if_true, Numeral.signed?, natural?_decimalDigits]
    show (some (-(n.natAbs : Int))).filter _ = _
    rw [back]
    exact Option.filter_some_pos range
  · have back : Int.ofNat n.natAbs = n := Int.natAbs_of_nonneg (by omega)
    have unsigned : Numeral.signed? (decimalDigits n.natAbs) =
        ((Numeral.natural? (decimalDigits n.natAbs)).map Int.ofNat).filter
          fun n => minSigned64 ≤ n && n ≤ maxSigned64 := by
      have digit := fun c (h : c ∈ decimalDigits n.natAbs) => isDigit_of_mem_decimalDigits h
      unfold Numeral.signed?
      split
      · next eq => exact absurd (digit '+' (by rw [eq]; exact List.mem_cons_self)) (by decide)
      · next eq => exact absurd (digit '-' (by rw [eq]; exact List.mem_cons_self)) (by decide)
      · rfl
    rw [if_neg neg, unsigned, natural?_decimalDigits, Option.map_some, back]
    exact Option.filter_some_pos range

end Json

/-- An integer that is read has 64 bits with a sign. -/
theorem range_of_signed? {text : List Char} {n : Int} (h : Numeral.signed? text = some n) :
    minSigned64 ≤ n ∧ n ≤ maxSigned64 := by
  simp only [Numeral.signed?, Option.filter_eq_some_iff, Bool.and_eq_true, decide_eq_true_eq] at h
  exact h.2

/-! ## Parts of references -/

/-- The plain text of the value is a part that stands for the value. -/
def ReadsAsPart (v : Value) : Prop :=
  referencePart (plainText v).toList = v ∧ Text.trim (plainText v).toList ≠ []

theorem toList_plainText_number (n : Number) :
    (plainText (Value.number n)).toList = n.text := String.toList_ofList

theorem readsAsPart_integer {n : Int} {fits : Json.FitsWord n} (small : n ≤ maxSigned64) :
    ReadsAsPart (.number (.integer n fits)) := by
  have solid : ∀ c ∈ (Number.integer n fits).text, Text.isBlank c = false := by
    intro c mem
    rcases Json.of_mem_text_integer mem with rfl | digit
    · decide
    · exact isBlank_of_isDigit digit
  have whole : Text.trim (Number.integer n fits).text = (Number.integer n fits).text :=
    Text.trim_of_forall solid
  have found : (Numeral.signed? (Number.integer n fits).text).bind Number.ofInt? =
      some (.integer n fits) := by
    rw [Json.signed?_text small, Option.bind_some, Number.ofInt?, dif_pos fits]
  constructor
  · simp only [referencePart, toList_plainText_number, whole, found]
  · rw [toList_plainText_number, whole, Json.text_integer]
    split
    · exact List.cons_ne_nil _ _
    · exact Nat.toDigits_ne_nil

theorem readsAsPart_int64 (n : Int64) : ReadsAsPart (Value.int64 n) :=
  readsAsPart_integer (Int.le_of_lt_add_one n.toInt_lt)

/-- What a part is read as: a signed word, or the text of the part. -/
theorem referencePart_cases (part : List Char) :
    (∃ n fits, n ≤ maxSigned64 ∧ referencePart part = .number (.integer n fits)) ∨
      (Numeral.signed? (Text.trim part)).bind Number.ofInt? = none ∧
        referencePart part = .text (String.ofList (Text.trim part)) := by
  cases found : (Numeral.signed? (Text.trim part)).bind Number.ofInt? with
  | none => exact .inr ⟨rfl, by simp only [referencePart, found]⟩
  | some number =>
    obtain ⟨n, spelled, taken⟩ := Option.bind_eq_some_iff.1 found
    have range := range_of_signed? spelled
    have fits : Json.FitsWord n := ⟨range.1, Int.le_trans range.2 (by decide)⟩
    rw [Number.ofInt?, dif_pos fits] at taken
    cases taken
    exact .inl ⟨n, fits, range.2, by simp only [referencePart, found]⟩

/-- A part that is not blank is read to the same value again from its plain text. -/
theorem readsAsPart_referencePart {part : List Char} (solid : Text.trim part ≠ []) :
    ReadsAsPart (referencePart part) := by
  rcases referencePart_cases part with ⟨n, fits, small, eq⟩ | ⟨other, eq⟩
  · rw [eq]
    exact readsAsPart_integer small
  · have text : (plainText (.text (String.ofList (Text.trim part)))).toList = Text.trim part :=
      String.toList_ofList
    rw [eq]
    constructor
    · simp only [referencePart, text, Text.trim_trim, other]
    · rwa [text, Text.trim_trim]

theorem colon_notMem_text_integer {n : Int} {fits : Json.FitsWord n} :
    ':' ∉ (Number.integer n fits).text := by
  intro mem
  rcases Json.of_mem_text_integer mem with eq | digit
  · exact absurd eq (by decide)
  · exact absurd digit (by decide)

theorem colon_notMem_plainText_int64 (n : Int64) : ':' ∉ (plainText (Value.int64 n)).toList := by
  rw [Value.int64, toList_plainText_number]
  exact colon_notMem_text_integer

/-- A part without a colon has none in its plain text once it is read. -/
theorem colon_notMem_plainText_referencePart {part : List Char} (h : ':' ∉ part) :
    ':' ∉ (plainText (referencePart part)).toList := by
  rcases referencePart_cases part with ⟨n, fits, -, eq⟩ | ⟨-, eq⟩
  · rw [eq, toList_plainText_number]
    exact colon_notMem_text_integer
  · have text : (plainText (.text (String.ofList (Text.trim part)))).toList = Text.trim part :=
      String.toList_ofList
    rw [eq, text]
    exact fun mem => h (Text.mem_of_mem_trim mem)

/-! ## References -/

namespace FieldRule

/-- A value is read as a reference exactly if it is a text with something that is not blank on both
sides of its first colon. -/
theorem referenceParts?_eq_some_iff {v : Value} {zone id : List Char} :
    referenceParts? v = some (zone, id) ↔
      ∃ s, v = .text s ∧ s.toList = zone ++ ':' :: id ∧ ':' ∉ zone ∧
        Text.trim zone ≠ [] ∧ Text.trim id ≠ [] := by
  constructor
  · intro h
    rw [referenceParts?] at h
    split at h
    · cases h
    · next s isText =>
      obtain ⟨cut, solid⟩ := Option.filter_eq_some_iff.1 h
      obtain ⟨front, c, colon, eq⟩ := Text.of_cut? cut
      rw [eq_of_beq colon] at eq
      simp only [Bool.and_eq_true, Bool.not_eq_true', List.isEmpty_eq_false_iff] at solid
      refine ⟨s, Value.eq_text_of_text? isText, eq, fun mem => ?_, solid.1, solid.2⟩
      exact absurd (front ':' mem) (by decide)
  · rintro ⟨s, rfl, chars, noColon, zoneSolid, idSolid⟩
    have front : ∀ c ∈ zone, (c == ':') = false := fun c mem =>
      beq_false_of_ne fun eq => noColon (eq ▸ mem)
    show (Text.cut? (· == ':') s.toList).filter _ = _
    rw [chars, Text.cut?_append front rfl]
    exact Option.filter_some_pos (by simp [zoneSolid, idSolid])

/-- The parts of a written reference are the texts it was written from. -/
theorem referenceParts?_text {zone id : Value} (zonePart : ReadsAsPart zone)
    (idPart : ReadsAsPart id) (noColon : ':' ∉ (plainText zone).toList) :
    referenceParts? (.text (plainText zone ++ ":" ++ plainText id)) =
      some ((plainText zone).toList, (plainText id).toList) :=
  referenceParts?_eq_some_iff.2
    ⟨_, rfl, by simp [String.toList_append], noColon, zonePart.2, idPart.2⟩

/-- A written reference is read as some parts exactly if neither is blank: what stands before the
first colon, and the rest.  If the zone has a colon itself, the rest holds the colon that was
written, so it is not blank. -/
theorem exists_referenceParts?_iff {zone id : String} :
    (∃ parts, referenceParts? (.text (zone ++ ":" ++ id)) = some parts) ↔
      Text.trim (zone.toList.takeWhile (· != ':')) ≠ [] ∧
        (':' ∈ zone.toList ∨ Text.trim id.toList ≠ []) := by
  have chars : (zone ++ ":" ++ id).toList = zone.toList ++ ':' :: id.toList := by
    simp [String.toList_append]
  have read {front back : List Char} (cut : Text.cut? (· == ':') (zone ++ ":" ++ id).toList =
      some (front, back)) : (∃ parts, referenceParts? (.text (zone ++ ":" ++ id)) = some parts) ↔
        Text.trim front ≠ [] ∧ Text.trim back ≠ [] := by
    have eq : referenceParts? (.text (zone ++ ":" ++ id)) =
        (some (front, back)).filter fun parts =>
          !(Text.trim parts.1).isEmpty && !(Text.trim parts.2).isEmpty := by
      rw [← cut]
      rfl
    simp [eq, Option.filter_eq_some_iff]
  have before {text : List Char} (noColon : ':' ∉ text) : ∀ c ∈ text, (c == ':') = false :=
    fun c mem => beq_false_of_ne fun eq => noColon (eq ▸ mem)
  have other {text : List Char} (noColon : ':' ∉ text) : ∀ c ∈ text, (c != ':') = true :=
    fun c mem => by rw [bne, before noColon c mem]; rfl
  by_cases colon : ':' ∈ zone.toList
  · obtain ⟨front, back, eq, first⟩ := List.eq_append_cons_of_mem colon
    have cut : Text.cut? (· == ':') (zone ++ ":" ++ id).toList =
        some (front, back ++ ':' :: id.toList) := by
      rw [chars, eq, List.append_assoc, List.cons_append]
      exact Text.cut?_append (before first) rfl _
    have solid : Text.trim (back ++ ':' :: id.toList) ≠ [] := by
      intro blank
      have colonBlank := Text.trim_eq_nil_iff.1 blank ':'
        (List.mem_append_right _ List.mem_cons_self)
      exact absurd colonBlank (by decide)
    have taken : zone.toList.takeWhile (· != ':') = front := by
      rw [eq, List.takeWhile_append_of_pos (other first)]
      simp
    rw [read cut, taken]
    exact and_congr_right fun _ => iff_of_true solid (.inl colon)
  · have cut : Text.cut? (· == ':') (zone ++ ":" ++ id).toList = some (zone.toList, id.toList) := by
      rw [chars]
      exact Text.cut?_append (before colon) rfl _
    rw [read cut, List.takeWhile_eq_self_iff.2 (other colon)]
    exact and_congr_right fun _ => (or_iff_right colon).symm

/-- The zone of a reference has no colon, and neither part is blank. -/
theorem of_referenceParts? {v : Value} {zone id : List Char}
    (h : referenceParts? v = some (zone, id)) :
    ':' ∉ zone ∧ Text.trim zone ≠ [] ∧ Text.trim id ≠ [] := by
  obtain ⟨s, -, -, solid⟩ := referenceParts?_eq_some_iff.1 h
  exact solid

end FieldRule

end EffectFlow
