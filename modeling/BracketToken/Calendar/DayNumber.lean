import BracketToken.Calendar.Date

/-!
Dates as day numbers: 0001-01-01 is day 1, and each day adds one.

`Date.dayNumber` counts whole years, then whole months, then days. `Date.ofDayNumber?` guesses the
year from the mean length of a year, corrects the guess by the same count, and walks through the
months. `Date.ofDayNumber?_eq_some_iff` says that the two are inverse to each other.
-/

namespace BracketToken.Calendar

/-- The days from 0001-01-01 to the first day of the year, negative before. -/
def daysBeforeYear (year : Int) : Int :=
  365 * (year - 1) + (year - 1) / 4 - (year - 1) / 100 + (year - 1) / 400

def daysBeforeMonth (year : Int) : Nat → Nat
  | 0 | 1 => 0
  | month + 2 => daysBeforeMonth year (month + 1) + monthLength year (month + 1)

/-- A year has 366 days if it is a leap year, and 365 otherwise. -/
theorem daysBeforeYear_succ (year : Int) :
    daysBeforeYear (year + 1) = daysBeforeYear year + (if isLeap year then 366 else 365) := by
  unfold daysBeforeYear isLeap
  split
  · next h => simp at h; omega
  · next h => simp at h; omega

def yearOfDay (n : Int) : Int :=
  let guess := (n - 1) * 400 / 146097 + 1
  if n ≤ daysBeforeYear guess then guess - 1
  else if daysBeforeYear (guess + 1) < n then guess + 1
  else guess

/-- The day lies after the last day before its year and no later than the last day of it. -/
theorem yearOfDay_holds (n : Int) :
    daysBeforeYear (yearOfDay n) < n ∧ n ≤ daysBeforeYear (yearOfDay n + 1) := by
  unfold yearOfDay daysBeforeYear
  dsimp only
  split
  · omega
  · split <;> omega

/-- The month and the day that the `rest`-th day falls on when it is counted through `months`. -/
def monthOfDay (year : Int) : (months : List Nat) → (rest : Nat) → Option (Nat × Nat)
  | [], _ => none
  | month :: months, rest =>
    if rest ≤ monthLength year month then some (month, rest)
    else monthOfDay year months (rest - monthLength year month)

theorem daysBeforeMonth_succ (year : Int) {month : Nat} (h : 1 ≤ month) :
    daysBeforeMonth year (month + 1) = daysBeforeMonth year month + monthLength year month := by
  obtain ⟨m, rfl⟩ : ∃ m, month = m + 1 := ⟨month - 1, by omega⟩
  rfl

theorem daysBeforeMonth_mono (year : Int) {m n : Nat} (h : m ≤ n) :
    daysBeforeMonth year m ≤ daysBeforeMonth year n := by
  induction h with
  | refl => exact Nat.le_refl _
  | step _ ih =>
    refine Nat.le_trans ih ?_
    rename_i k _
    cases k with
    | zero => exact Nat.le_refl _
    | succ k => exact Nat.le_add_right _ _

theorem daysBeforeMonth_thirteen (year : Int) :
    (daysBeforeMonth year 13 : Int) = if isLeap year then 366 else 365 := by
  simp only [daysBeforeMonth, monthLength]
  split <;> rfl

/-- Counting a day of the year through the months finds the one month and day that it is. -/
theorem monthOfDay_eq_some_iff {year : Int} {first count rest month day : Nat} (hf : 1 ≤ first)
    (hr : 1 ≤ rest) :
    monthOfDay year (List.range' first count) rest = some (month, day) ↔
      first ≤ month ∧ month < first + count ∧ 1 ≤ day ∧ day ≤ monthLength year month ∧
        daysBeforeMonth year first + rest = daysBeforeMonth year month + day := by
  induction count generalizing first rest with
  | zero =>
    simp only [List.range'_zero, monthOfDay, reduceCtorEq, false_iff]
    omega
  | succ count ih =>
    rw [List.range'_succ, monthOfDay]
    have hs := daysBeforeMonth_succ year hf
    split
    · next hle =>
      simp only [Option.some.injEq, Prod.mk.injEq]
      constructor
      · rintro ⟨rfl, rfl⟩
        exact ⟨Nat.le_refl _, by omega, hr, hle, rfl⟩
      · rintro ⟨hm, _, hd, hl, he⟩
        rcases Nat.eq_or_lt_of_le hm with rfl | hlt
        · exact ⟨rfl, by omega⟩
        · have := daysBeforeMonth_mono year (show first + 1 ≤ month from hlt)
          omega
    · next hgt =>
      rw [ih (by omega) (by omega), hs]
      constructor
      · rintro ⟨hm, hc, hd, hl, he⟩
        exact ⟨by omega, by omega, hd, hl, by omega⟩
      · rintro ⟨hm, hc, hd, hl, he⟩
        rcases Nat.eq_or_lt_of_le hm with rfl | hlt
        · omega
        · exact ⟨hlt, by omega, hd, hl, by omega⟩

theorem daysBeforeYear_mono {y z : Int} (h : y ≤ z) : daysBeforeYear y ≤ daysBeforeYear z := by
  unfold daysBeforeYear
  omega

/-- No other year holds the day. -/
theorem yearOfDay_eq {n y : Int} (h : daysBeforeYear y < n) (h' : n ≤ daysBeforeYear (y + 1)) :
    yearOfDay n = y := by
  obtain ⟨h1, h2⟩ := yearOfDay_holds n
  rcases Int.lt_trichotomy (yearOfDay n) y with hlt | heq | hgt
  · have := daysBeforeYear_mono (show yearOfDay n + 1 ≤ y by omega)
    omega
  · exact heq
  · have := daysBeforeYear_mono (show y + 1 ≤ yearOfDay n by omega)
    omega

theorem daysBeforeYear_next (year : Int) :
    daysBeforeYear (year + 1) = daysBeforeYear year + daysBeforeMonth year 13 := by
  rw [daysBeforeYear_succ, daysBeforeMonth_thirteen]

namespace Date

def dayNumber (d : Date) : Int :=
  daysBeforeYear d.year + daysBeforeMonth d.year d.month + d.day

def ofDayNumber? (n : Int) : Option Date :=
  let year := yearOfDay n
  match monthOfDay year (List.range' 1 12) (n - daysBeforeYear year).toNat with
  | some (month, day) => of? year month day
  | none => none

theorem dayNumber_mem_year (d : Date) :
    daysBeforeYear d.year < d.dayNumber ∧ d.dayNumber ≤ daysBeforeYear (d.year + 1) := by
  have hs := daysBeforeMonth_succ d.year d.month_mem.1
  have hm := daysBeforeMonth_mono d.year (show d.month + 1 ≤ 13 by have := d.month_mem; omega)
  have hd := d.day_mem
  rw [daysBeforeYear_next, dayNumber]
  omega

/-- Day numbers and dates determine each other. -/
theorem ofDayNumber?_eq_some_iff {n : Int} {d : Date} :
    ofDayNumber? n = some d ↔ d.dayNumber = n := by
  have hfirst : daysBeforeMonth (yearOfDay n) 1 = 0 := rfl
  have hrest : 1 ≤ (n - daysBeforeYear (yearOfDay n)).toNat := by
    have := yearOfDay_holds n
    omega
  constructor
  · intro h
    unfold ofDayNumber? at h
    dsimp only at h
    split at h
    · next month day hmonth =>
      rw [monthOfDay_eq_some_iff (Nat.le_refl 1) hrest] at hmonth
      obtain ⟨hy, hm, hd⟩ := of?_eq_some_iff.1 h
      rw [dayNumber, hy, hm, hd]
      omega
    · cases h
  · rintro rfl
    have hyear := yearOfDay_eq d.dayNumber_mem_year.1 d.dayNumber_mem_year.2
    have hmonth : monthOfDay d.year (List.range' 1 12)
        (d.dayNumber - daysBeforeYear d.year).toNat = some (d.month, d.day) := by
      rw [hyear] at hrest
      rw [monthOfDay_eq_some_iff (Nat.le_refl 1) hrest]
      refine ⟨d.month_mem.1, by have := d.month_mem; omega, d.day_mem.1, d.day_mem.2, ?_⟩
      rw [dayNumber]
      have : daysBeforeMonth d.year 1 = 0 := rfl
      omega
    unfold ofDayNumber?
    rw [hyear]
    dsimp only
    rw [hmonth]
    exact of?_eq_some_iff.2 ⟨rfl, rfl, rfl⟩

end Date

end BracketToken.Calendar
