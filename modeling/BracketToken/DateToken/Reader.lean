import BracketToken.Text.Split
import BracketToken.Traced

/-!
Reading date tokens.

A body that opens with an anchor keyword belongs to the relative grammar: after the keyword come
clauses of a sign, digits and a unit, with nothing between them. Any other body belongs to the
boundary grammar: an edge, the name of a month and a year, with hyphens between them.
-/

namespace BracketToken.DateToken

open Numeral Text

/-- The anchor whose keyword opens the body, and what follows it. -/
def Anchor.split? (body : List Char) : Option (Anchor × List Char) :=
  Anchor.all.findSome? fun anchor => (after? anchor.keyword.toList body).map (anchor, ·)

/-- Whether a sign is a minus; other characters are no sign. -/
def isMinus? (c : Char) : Option Bool :=
  if c = '+' then some false else if c = '-' then some true else none

/-- Reads one clause from the front. An unknown unit is reported before a number that is too
large. -/
def clause (token : String) : List Char → Except Error (Adjustment × List Char)
  | [] => .error (.invalidFormat token)
  | sign :: text =>
    match isMinus? sign with
    | none => .error (.invalidFormat token)
    | some minus =>
      let digits := text.takeWhile Char.isDigit
      let afterDigits := text.dropWhile Char.isDigit
      let word := afterDigits.takeWhile Char.isAlpha
      let rest := afterDigits.dropWhile Char.isAlpha
      if digits.isEmpty || word.isEmpty then .error (.invalidFormat token)
      else
        match CalendarUnit.ofKeyword? word with
        | none => .error (.invalidUnit (.ofList word))
        | some unit =>
          match int64? (value digits) with
          | none => .error (.outOfRange (.amount digits unit))
          | some magnitude => .ok (⟨if minus then -magnitude else magnitude, unit⟩, rest)

/-- A clause takes at least its sign. -/
theorem length_of_clause {token : String} {text rest : List Char} {a : Adjustment}
    (h : clause token text = .ok (a, rest)) : rest.length < text.length := by
  cases text with
  | nil => simp [clause] at h
  | cons sign text =>
    have hword := (List.dropWhile_sublist Char.isAlpha (l := text.dropWhile Char.isDigit)).length_le
    have hdigits := (List.dropWhile_sublist Char.isDigit (l := text)).length_le
    have hrest : rest = (text.dropWhile Char.isDigit).dropWhile Char.isAlpha := by
      simp only [clause] at h
      generalize isMinus? sign = minus at h
      generalize CalendarUnit.ofKeyword? _ = unit at h
      generalize int64? _ = amount at h
      cases minus with
      | none => simp at h
      | some minus =>
        by_cases empty : ((text.takeWhile Char.isDigit).isEmpty ||
            ((text.dropWhile Char.isDigit).takeWhile Char.isAlpha).isEmpty) = true
        · simp only [empty, if_true] at h
          cases h
        · simp only [empty, Bool.false_eq_true, if_false] at h
          cases unit <;> cases amount <;> simp_all
    subst hrest
    simp only [List.length_cons]
    omega

/-- Reads clauses up to the end of the text; the first bad one decides. -/
def clauses (token : String) (text : List Char) : Except Error (List Adjustment) :=
  if text.isEmpty then .ok []
  else
    match _h : clause token text with
    | .error e => .error e
    | .ok (adjustment, rest) => (clauses token rest).map (adjustment :: ·)
termination_by text.length
decreasing_by exact length_of_clause _h

/-- A character that may stand in the place of a month name. -/
def isWordChar (c : Char) : Bool := c.isAlphanum || c = '_'

def isBoundaryYear (year : Nat) : Bool := 1 ≤ year && year ≤ 9999

/-- Reads an edge, a month and a year. The shape of all three comes before their meaning, and the
month before the year. -/
def boundary (token : String) (body : List Char) : Except Error MonthBoundary :=
  match body.splitOn '-' with
  | [edge, month, year] =>
    match MonthEdge.ofKeyword? edge with
    | none => .error (.invalidFormat token)
    | some edge =>
      if month.isEmpty || !month.all isWordChar || !isNumeral year then
        .error (.invalidFormat token)
      else
        match monthNamed? month with
        | none => .error (.invalidMonth (.ofList month))
        | some number =>
          if isBoundaryYear (value year) then .ok ⟨edge, number, value year⟩
          else .error (.invalidYear (.ofList year))
  | _ => .error (.invalidFormat token)

/-- Reads a body. The token shows in errors and events only. -/
def ofBody (token : String) (body : List Char) : Traced Error DateToken :=
  match Anchor.split? body with
  | some (anchor, rest) => do
    .log (.relativeGrammar token)
    .ofExcept ((clauses token rest).map (.relative anchor))
  | none => do
    .log (.boundaryGrammar token)
    .ofExcept ((boundary token body).map .monthBoundary)

def read (token : String) : Traced Error DateToken := do
  .log (.readingDateToken token)
  match Bracket.inner? token.toList with
  | none => .fail (.invalidFormat token)
  | some body => ofBody token body

def accepts (token : String) : Bool := (read token).isOk

end BracketToken.DateToken
