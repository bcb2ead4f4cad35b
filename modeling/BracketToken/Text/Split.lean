/-!
Taking text apart: a fixed opening, the pieces between a fixed mark, and positions in bytes.

Main statement: `after?_eq_some_iff`, a text has the rest `r` after an opening exactly when it is the
opening followed by `r`.
-/

namespace BracketToken.Text

/-- What follows `opening` in `text`, if `text` starts with it. -/
def after? : (opening text : List Char) → Option (List Char)
  | [], text => some text
  | _ :: _, [] => none
  | o :: opening, c :: text => if o = c then after? opening text else none

/-- The opening and the rest make up the text. -/
theorem after?_eq_some_iff {opening text rest : List Char} :
    after? opening text = some rest ↔ text = opening ++ rest := by
  induction opening generalizing text with
  | nil => simp [after?, eq_comm]
  | cons o opening ih =>
    cases text with
    | nil => simp [after?]
    | cons c text =>
      by_cases h : o = c
      · simp [after?, h, ih]
      · simp [after?, h, Ne.symm h]

def consFirst (c : Char) : List (List Char) → List (List Char)
  | [] => [[c]]
  | piece :: pieces => (c :: piece) :: pieces

/-- The pieces of a text between the marks `<->`, found from the left without overlap. -/
def splitArrow : List Char → List (List Char)
  | [] => [[]]
  | '<' :: '-' :: '>' :: rest => [] :: splitArrow rest
  | c :: rest => consFirst c (splitArrow rest)

/-- There is always a piece, if only an empty one. -/
theorem splitArrow_ne_nil (text : List Char) : splitArrow text ≠ [] := by
  fun_cases splitArrow text <;> simp_all [consFirst]
  split <;> simp

def byteSize : List Char → Nat
  | [] => 0
  | c :: text => c.utf8Size + byteSize text

/-- The text before and after its first `n` bytes, unless that cuts a character. -/
def splitAtByte? : Nat → List Char → Option (List Char × List Char)
  | 0, text => some ([], text)
  | _ + 1, [] => none
  | n + 1, c :: text =>
    if c.utf8Size ≤ n + 1 then
      (splitAtByte? (n + 1 - c.utf8Size) text).map fun parts => (c :: parts.1, parts.2)
    else none

end BracketToken.Text
