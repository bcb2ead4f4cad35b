import BracketToken.Bracket
import BracketToken.Calendar.Canonical
import BracketToken.DateToken.Basic

/-!
Why a date token is refused, and the message for each cause.
-/

namespace BracketToken.DateToken

inductive RangeCause
  /-- A number that no 64-bit word holds. -/
  | amount (digits : List Char) (unit : CalendarUnit)
  /-- The anchor's day is not in the calendar. -/
  | anchor (start : Anchor) (today : Calendar.Date)
  /-- An adjustment leaves the calendar. -/
  | adjustment (step : Adjustment) (date : Calendar.Date)
  /-- The date reached has no year of four digits. -/
  | year (date : Calendar.Date)
  deriving DecidableEq

inductive Error
  /-- The text has the shape of no date token. -/
  | invalidFormat (token : String)
  | invalidMonth (name : String)
  | invalidYear (year : String)
  | invalidUnit (unit : String)
  | outOfRange (cause : RangeCause)
  deriving DecidableEq

/-- What the message says after its opening words. -/
def RangeCause.message : RangeCause → String
  | .amount digits unit => .ofList digits ++ unit.keyword
  | .anchor start today => start.name ++ " from " ++ today.text
  | .adjustment step date => step.text ++ " from " ++ date.text
  | .year date => date.text ++ " is outside years 0000-9999"

def Error.message : Error → String
  | invalidFormat token => malformedToken ++ ": " ++ token
  | invalidMonth name => name ++ " : UNRECOGNISED - Invalid month"
  | invalidYear year => year ++ " : UNRECOGNISED - Invalid year"
  | invalidUnit unit => unit ++ " : UNRECOGNISED - Invalid date section"
  | outOfRange cause => "date out of range: " ++ cause.message

end BracketToken.DateToken
