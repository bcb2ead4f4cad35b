import BracketToken.Calendar.Date

/-!
Instants of UTC: a date and a time of day to the nanosecond.

A leap second is the second 59 with a nanosecond count of 10^9 or more.
-/

namespace BracketToken.Calendar

def nanosPerSecond : Nat := 1000000000

structure TimeOfDay where
  hour : Nat
  minute : Nat
  second : Nat
  nano : Nat
  hour_lt : hour < 24
  minute_lt : minute < 60
  second_lt : second < 60
  nano_lt : nano < 2 * nanosPerSecond
  leap_second : nanosPerSecond ≤ nano → second = 59
  deriving DecidableEq

namespace TimeOfDay

def midnight : TimeOfDay := ⟨0, 0, 0, 0, by decide, by decide, by decide, by decide, by decide⟩

def of? (hour minute second nano : Nat) : Option TimeOfDay :=
  if h : hour < 24 ∧ minute < 60 ∧ second < 60 ∧ nano < 2 * nanosPerSecond ∧
      (nanosPerSecond ≤ nano → second = 59) then
    some ⟨hour, minute, second, nano, h.1, h.2.1, h.2.2.1, h.2.2.2.1, h.2.2.2.2⟩
  else none

/-- The second as a clock shows it: 60 in a leap second. -/
def clockSecond (t : TimeOfDay) : Nat := t.second + t.nano / nanosPerSecond

/-- The time that a clock shows as `hour:minute:second`, where the second may be 60. -/
def ofClock? (hour minute second : Nat) : Option TimeOfDay :=
  if second = 60 then of? hour minute 59 nanosPerSecond else of? hour minute second 0

end TimeOfDay

structure Instant where
  date : Date
  time : TimeOfDay
  deriving DecidableEq

def Date.midnight (d : Date) : Instant := ⟨d, .midnight⟩

end BracketToken.Calendar
