import BracketToken.Calendar.Date
import BracketToken.Text.Numeral

/-!
Date tokens: a day reckoned from today, or an edge of a month.
-/

namespace BracketToken

namespace DateToken

/-- The day that a relative token starts from. -/
inductive Anchor
  | today
  | tomorrow
  | yesterday
  deriving DecidableEq

namespace Anchor

/-- The anchors in the order in which a reader tries them. -/
def all : List Anchor := [today, tomorrow, yesterday]

def keyword : Anchor → String
  | today => "TODAY"
  | tomorrow => "TOMORROW"
  | yesterday => "YESTERDAY"

/-- The name that messages use. -/
def name : Anchor → String
  | today => "Today"
  | tomorrow => "Tomorrow"
  | yesterday => "Yesterday"

def daysFromToday : Anchor → Int64
  | today => 0
  | tomorrow => 1
  | yesterday => -1

end Anchor

inductive CalendarUnit
  | year
  | month
  | day
  deriving DecidableEq

namespace CalendarUnit

def all : List CalendarUnit := [year, month, day]

def keyword : CalendarUnit → String
  | year => "YEAR"
  | month => "MONTH"
  | day => "DAY"

def ofKeyword? (word : List Char) : Option CalendarUnit := all.find? (·.keyword.toList = word)

theorem ofKeyword?_keyword (u : CalendarUnit) : ofKeyword? u.keyword.toList = some u := by
  cases u <;> decide

end CalendarUnit

/-- A signed number of units, as in `+1MONTH`. -/
structure Adjustment where
  amount : Int64
  unit : CalendarUnit
  deriving DecidableEq

def Adjustment.chars (a : Adjustment) : List Char :=
  Numeral.signed a.amount.toInt ++ a.unit.keyword.toList

/-- An adjustment as messages and logs show it. -/
def Adjustment.text (a : Adjustment) : String := .ofList a.chars

inductive MonthEdge
  | first
  | last
  deriving DecidableEq

namespace MonthEdge

def all : List MonthEdge := [first, last]

def keyword : MonthEdge → String
  | first => "START"
  | last => "END"

def ofKeyword? (word : List Char) : Option MonthEdge := all.find? (·.keyword.toList = word)

/-- The bound of a month that the edge selects. -/
def pick {α : Type} : MonthEdge → α × α → α
  | first, bounds => bounds.1
  | last, bounds => bounds.2

end MonthEdge

/-- An edge of a month of a year. Month and year may be any numbers; a reader admits only months
and years that exist. -/
structure MonthBoundary where
  edge : MonthEdge
  month : Nat
  year : Int
  deriving DecidableEq

def englishMonths : List String :=
  ["JANUARY", "FEBRUARY", "MARCH", "APRIL", "MAY", "JUNE", "JULY", "AUGUST", "SEPTEMBER",
   "OCTOBER", "NOVEMBER", "DECEMBER"]

/-- The number of the month with a name, in ASCII letters of either case. -/
def monthNamed? (name : List Char) : Option Nat :=
  (englishMonths.findIdx? (·.toList = name.map Char.toUpper)).map (· + 1)

end DateToken

/-- A date token without its brackets. Nothing is computed before it is resolved. -/
inductive DateToken
  /-- An anchor and adjustments that apply from left to right. -/
  | relative (anchor : DateToken.Anchor) (adjustments : List DateToken.Adjustment)
  /-- The first or the last day of a month. -/
  | monthBoundary (boundary : DateToken.MonthBoundary)
  deriving DecidableEq

namespace DateToken

def size : DateToken → Nat
  | relative _ adjustments => adjustments.length
  | monthBoundary _ => 0

/-- The token with its first `n` adjustments only. -/
def cut (n : Nat) : DateToken → DateToken
  | relative anchor adjustments => relative anchor (adjustments.take n)
  | monthBoundary boundary => monthBoundary boundary

end DateToken

end BracketToken
