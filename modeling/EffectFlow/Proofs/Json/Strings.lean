import EffectFlow.Json.Parser
import EffectFlow.Json.Printer

/-!
# Strings that read back

A written string is read as the string it was written from (`text?_writeText`).  Each character has
a written form that the reader takes as one piece, and the piece stands for the character.
-/

namespace EffectFlow.Json

theorem codeUnit?_control :
    ∀ n, n < 0x20 → codeUnit? '0' '0' (hexDigit (n / 16)) (hexDigit n) = some n := by
  decide

theorem assemble?_char (c : Char) (rest : List Piece) :
    assemble? (.char c :: rest) = (assemble? rest).map (c :: ·) := rfl

/-- The code unit of a control stands for the control, whatever follows. -/
theorem assemble?_control {c : Char} (control : c.toNat < 0x20) (rest : List Piece) :
    assemble? (.unit c.toNat :: rest) = (assemble? rest).map (c :: ·) := by
  have high : isHighSurrogate c.toNat = false := by
    simp only [isHighSurrogate, Bool.and_eq_false_iff, decide_eq_false_iff_not]
    omega
  have low : isLowSurrogate c.toNat = false := by
    simp only [isLowSurrogate, Bool.and_eq_false_iff, decide_eq_false_iff_not]
    omega
  rw [assemble?.eq_def]
  simp [high, low]

theorem pieces?_short {e c : Char} (taken : List Piece) (more : List Char) (notUnit : e ≠ 'u')
    (short : shortEscape? e = some c) :
    pieces? taken ('\\' :: e :: more) = pieces? (.char c :: taken) more := by
  rw [pieces?.eq_def]
  simp [notUnit, short]

/-- The written form of a character is read as one piece, which stands for the character. -/
theorem exists_piece (c : Char) :
    ∃ piece, (∀ taken more, pieces? taken (escapeChar c ++ more) = pieces? (piece :: taken) more) ∧
      ∀ rest, assemble? (piece :: rest) = (assemble? rest).map (c :: ·) := by
  have short : ∀ e, e ≠ 'u' → shortEscape? e = some c → escapeChar c = ['\\', e] →
      ∃ piece, (∀ taken more,
          pieces? taken (escapeChar c ++ more) = pieces? (piece :: taken) more) ∧
        ∀ rest, assemble? (piece :: rest) = (assemble? rest).map (c :: ·) := by
    intro e notUnit reads written
    refine ⟨.char c, fun taken more => ?_, assemble?_char c⟩
    rw [written]
    exact pieces?_short taken more notUnit reads
  by_cases quote : c = '"'
  · exact short '"' (by decide) (by rw [quote]; rfl) (by rw [quote]; rfl)
  by_cases backslash : c = '\\'
  · exact short '\\' (by decide) (by rw [backslash]; rfl) (by rw [backslash]; rfl)
  by_cases line : c = '\n'
  · exact short 'n' (by decide) (by rw [line]; rfl) (by rw [line]; rfl)
  by_cases carriage : c = '\r'
  · exact short 'r' (by decide) (by rw [carriage]; rfl) (by rw [carriage]; rfl)
  by_cases tab : c = '\t'
  · exact short 't' (by decide) (by rw [tab]; rfl) (by rw [tab]; rfl)
  by_cases back : c = '\x08'
  · exact short 'b' (by decide) (by rw [back]; rfl) (by rw [back]; rfl)
  by_cases feed : c = '\x0c'
  · exact short 'f' (by decide) (by rw [feed]; rfl) (by rw [feed]; rfl)
  by_cases control : c.toNat < 0x20
  · refine ⟨.unit c.toNat, fun taken more => ?_, assemble?_control control⟩
    have written : escapeChar c =
        ['\\', 'u', '0', '0', hexDigit (c.toNat / 16), hexDigit c.toNat] := by
      simp [escapeChar, quote, backslash, line, carriage, tab, back, feed, control]
    rw [written, pieces?.eq_def]
    simp [codeUnit?_control c.toNat control]
  · refine ⟨.char c, fun taken more => ?_, assemble?_char c⟩
    have written : escapeChar c = [c] := by
      simp [escapeChar, quote, backslash, line, carriage, tab, back, feed, control]
    rw [written, List.singleton_append, pieces?.eq_def]
    simp [quote, backslash, control]

/-- Written characters are read as pieces that stand for them. -/
theorem exists_pieces (cs : List Char) :
    ∃ pieces, (∀ taken more,
        pieces? taken (cs.flatMap escapeChar ++ more) = pieces? (pieces.reverse ++ taken) more) ∧
      assemble? pieces = some cs := by
  induction cs with
  | nil => exact ⟨[], fun _ _ => rfl, rfl⟩
  | cons c rest ih =>
    obtain ⟨piece, reads, stands⟩ := exists_piece c
    obtain ⟨pieces, readsRest, standRest⟩ := ih
    refine ⟨piece :: pieces, fun taken more => ?_, ?_⟩
    · rw [List.flatMap_cons, List.append_assoc, reads, readsRest, List.reverse_cons,
        List.append_assoc, List.singleton_append]
    · rw [stands, standRest, Option.map_some]

/-- A string is read back from its written form, after the opening quote. -/
theorem text?_writeText (s : String) (rest : List Char) :
    text? (s.toList.flatMap escapeChar ++ '"' :: rest) = some (some s, rest) := by
  obtain ⟨pieces, reads, stand⟩ := exists_pieces s.toList
  have close : pieces? (pieces.reverse ++ []) ('"' :: rest) = some (pieces, rest) := by
    rw [List.append_nil, pieces?.eq_def]
    simp
  rw [text?, reads, close, Option.map_some]
  simp only [stand, Option.map_some, String.ofList_toList]

end EffectFlow.Json
