import BracketToken.Calendar.DayNumber
import BracketToken.Text.Numeral

/-!
Moving a date by days, months and years.

Days are counted exactly. Months move the month count and then clamp the day to the length of the
month reached. Every step that a machine word has to hold is checked, and a shift that leaves the
calendar has no result.
-/

namespace BracketToken.Calendar.Date

open Numeral

def addDays? (d : Date) (n : Nat) : Option Date := ofDayNumber? (d.dayNumber + n)

def subDays? (d : Date) (n : Nat) : Option Date := ofDayNumber? (d.dayNumber - n)

/-- The date `n` days later. The size of `n` is counted forwards or, where `n` is negative,
backwards. -/
def plusDays? (d : Date) (n : Int64) : Option Date :=
  if 0 ≤ n then d.addDays? n.toInt.natAbs else d.subDays? n.toInt.natAbs

/-- The month that lies `count` months after January of year 0, as year and month. -/
def monthOfCount (count : Int) : Int × Nat := (count / 12, (count % 12).toNat + 1)

/-- The date `n` months later, on the last day of the month reached if that is too short. -/
def plusMonths? (d : Date) (n : Int64) : Option Date := do
  let count ← int64? (d.year * 12 + (d.month - 1 : Nat))
  let moved ← int64? (count.toInt + n.toInt)
  let (year, month) := monthOfCount moved.toInt
  let year ← int32? year
  of? year month (min d.day (monthLength year month))

/-- The date `n` years later; Feb 29 becomes Feb 28 where the year reached has none. -/
def plusYears? (d : Date) (n : Int64) : Option Date := do
  let months ← int64? (n.toInt * 12)
  d.plusMonths? months

end BracketToken.Calendar.Date

namespace BracketToken.Calendar

def monthEnds? (year : Int) (month : Nat) : Option (Date × Date) := do
  let first ← Date.of? year month 1
  let last ← Date.of? year month (monthLength year month)
  return (first, last)

end BracketToken.Calendar
