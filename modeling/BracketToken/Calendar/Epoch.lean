import BracketToken.Calendar.DayNumber
import BracketToken.Calendar.Instant

/-!
Instants from the seconds of a clock that counts from the start of 1970.
-/

namespace BracketToken.Calendar

def secondsPerDay : Nat := 86400

def epochDay : Int := 719163

/-- The instant that lies `seconds` after the start of 1970, if the calendar has it. -/
def Instant.ofEpochSeconds? (seconds : Int) : Option Instant := do
  let rest := (seconds % secondsPerDay).toNat
  let date ← Date.ofDayNumber? (epochDay + seconds / secondsPerDay)
  let time ← TimeOfDay.of? (rest / 3600) (rest / 60 % 60) (rest % 60) 0
  return ⟨date, time⟩

end BracketToken.Calendar
