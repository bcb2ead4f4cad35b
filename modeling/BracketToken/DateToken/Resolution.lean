import BracketToken.Calendar.Shift
import BracketToken.DateToken.Reader

/-!
Resolving date tokens to the start of a day.

A relative token starts at its anchor's day and applies its adjustments from left to right. Every
date on the way has to lie in the calendar, and the last one needs a year of four digits. A
boundary token does not depend on today.
-/

namespace BracketToken.DateToken

open Calendar

def Adjustment.apply? (a : Adjustment) (d : Date) : Option Date :=
  match a.unit with
  | .year => d.plusYears? a.amount
  | .month => d.plusMonths? a.amount
  | .day => d.plusDays? a.amount

/-- Applies the adjustments in order and logs each one that stays in the calendar. -/
def adjust : Date → List Adjustment → Traced Error Date
  | date, [] => pure date
  | date, a :: rest =>
    match a.apply? date with
    | none => .fail (.outOfRange (.adjustment a date))
    | some next => do
      .log (.appliedAdjustment a next)
      adjust next rest

def Anchor.date (anchor : Anchor) (today : Date) : Except Error Date :=
  match today.plusDays? anchor.daysFromToday with
  | none => .error (.outOfRange (.anchor anchor today))
  | some date => .ok date

/-- The edge of a month. A month that the calendar does not have is reported by its year. -/
def MonthBoundary.date (b : MonthBoundary) : Except Error Date :=
  match monthEnds? b.year b.month with
  | none => .error (.invalidYear (.ofList (Numeral.plain b.year)))
  | some bounds => .ok (b.edge.pick bounds)

/-- Refuses a date whose year does not have four digits. -/
def printable (date : Date) : Except Error Date :=
  if hasPlainYear date.year then .ok date else .error (.outOfRange (.year date))

def dateOf (tree : DateToken) (today : Date) : Traced Error Date :=
  match tree with
  | .relative anchor adjustments => do
    let start ← .ofExcept (anchor.date today)
    let date ← adjust start adjustments
    .ofExcept (printable date)
  | .monthBoundary boundary => .ofExcept boundary.date

/-- The start of the date of a token as seen from `today`. -/
def resolve (tree : DateToken) (today : Date) : Traced Error Instant := do
  let date ← tree.dateOf today
  return date.midnight

/-- Reads a token and resolves it on the date of `now`. -/
def evaluate (token : String) (now : Instant) : Traced Error Instant := do
  let tree ← read token
  let instant ← tree.resolve now.date
  .log (.resolvedDateToken token instant)
  return instant

/-- Reads an instant from its canonical text or a laxer form of it. -/
def readInstant (text : String) : Except Error Instant :=
  match Instant.ofChars? text.toList with
  | none => .error (.invalidFormat text)
  | some instant => .ok instant

end BracketToken.DateToken
