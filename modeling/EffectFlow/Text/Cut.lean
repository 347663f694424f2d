/-!
# Cutting text

* `after?` is the rest of a text after a given start, and `before?` what stands before a given end.
* `cut?` splits a text around its first character of a kind.
-/

namespace EffectFlow.Text

/-- The rest of a text after a given start. -/
def after? : List Char → List Char → Option (List Char)
  | [], text => some text
  | _ :: _, [] => none
  | w :: start, c :: text => if w = c then after? start text else none

/-- The part of a text before a given end. -/
def before? (ending text : List Char) : Option (List Char) :=
  (after? ending.reverse text.reverse).map List.reverse

/-- The parts before and after the first character of a kind. -/
def cut? (kind : Char → Bool) : List Char → Option (List Char × List Char)
  | [] => none
  | c :: rest =>
    if kind c then some ([], rest)
    else (cut? kind rest).map fun (front, back) => (c :: front, back)

theorem after?_append (start text : List Char) : after? start (start ++ text) = some text := by
  induction start with
  | nil => cases text <;> rfl
  | cons c rest ih => simp [after?, ih]

end EffectFlow.Text
