import BracketToken.Proofs.Chronology

/-!
Where months and years lead, and what clamping loses.

Main statements: `plusMonths?_plusYears?_exact`, a shift has a result exactly if the calendar has
the year reached, and the result is the latest date of the month reached whose day is not beyond
the one that it started from; `plusMonths?_in_two`, a shift in two parts ends at most three days
before the same shift in one.
-/

namespace BracketToken.Calendar

open Numeral

def HasYear (year : Int) : Prop := minYear ≤ year ∧ year ≤ maxYear

instance (year : Int) : Decidable (HasYear year) :=
  inferInstanceAs (Decidable (minYear ≤ year ∧ year ≤ maxYear))

namespace Date

/-- The months since January of year 0. -/
def monthIndex (d : Date) : Int := 12 * d.year + d.month - 1

/-- A date lies in the month with an index, as late as it can but not beyond a day of the month. -/
structure IsLatest (index : Int) (limit : Nat) (e : Date) : Prop where
  year : e.year = index / 12
  month : (e.month : Int) = index % 12 + 1
  day : e.day = min limit (monthLength e.year e.month)
  le : ∀ x : Date, x.year = e.year → x.month = e.month → x.day ≤ limit → x ≤ e

theorem year_month_of_index {e : Date} {index : Int} (h : e.monthIndex = index) :
    e.year = index / 12 ∧ (e.month : Int) = index % 12 + 1 := by
  have hm := e.month_mem
  rw [monthIndex] at h
  omega

/-- In one month the days decide. -/
theorem le_iff_day_le {d e : Date} (hyear : d.year = e.year) (hmonth : d.month = e.month) :
    d ≤ e ↔ d.day ≤ e.day := by
  rw [← not_lt, lt_iff]
  omega

/-- Going through the calendar without limits, said in the numbers of the date reached. -/
theorem toDate?_plusMonths_eq_some_iff {d e : Date} {n : Int} :
    (d.toDay.plusMonths n).toDate? = some e ↔
      e.monthIndex = d.monthIndex + n ∧ e.day = min d.day (monthLength e.year e.month) := by
  have hindex : d.toDay.month.index = d.monthIndex := rfl
  rw [Day.toDate?_eq_some_iff, Day.plusMonths, Month.plus_eq_ofIndex, hindex, toDay_eq_clamp_iff,
    of?_eq_some_iff]
  constructor
  · rintro ⟨hyear, hmonth, hday⟩
    refine ⟨?_, by rw [hyear, hmonth]; exact hday⟩
    rw [monthIndex, hyear, hmonth]
    omega
  · rintro ⟨hindex, hday⟩
    obtain ⟨hyear, hmonth⟩ := year_month_of_index hindex
    have hnumber : e.month = ((d.monthIndex + n) % 12).toNat + 1 := by omega
    refine ⟨hyear, hnumber, ?_⟩
    rw [← hyear, ← hnumber]
    exact hday

theorem toDate?_plusMonths_eq_none_iff {d : Date} {n : Int} :
    (d.toDay.plusMonths n).toDate? = none ↔ ¬ HasYear ((d.monthIndex + n) / 12) := by
  rw [Day.toDate?_eq_none_iff, Day.plusMonths, Month.plus_eq_ofIndex]
  exact Iff.rfl

theorem plusMonths?_eq_some_iff {d e : Date} {n : Int64} : d.plusMonths? n = some e ↔
    e.monthIndex = d.monthIndex + n.toInt ∧ e.day = min d.day (monthLength e.year e.month) := by
  rw [plusMonths?_eq]
  exact toDate?_plusMonths_eq_some_iff

theorem plusYears?_eq_some_iff {d e : Date} {n : Int64} : d.plusYears? n = some e ↔
    (e.year = d.year + n.toInt ∧ e.month = d.month) ∧
      e.day = min d.day (monthLength e.year e.month) := by
  have hd := d.month_mem
  have he := e.month_mem
  rw [plusYears?_eq, Day.plusYears, toDate?_plusMonths_eq_some_iff, monthIndex, monthIndex]
  refine and_congr_left fun _ => ?_
  constructor <;> omega

theorem IsLatest.of_index {e : Date} {index : Int} {limit : Nat} (hindex : e.monthIndex = index)
    (hday : e.day = min limit (monthLength e.year e.month)) : e.IsLatest index limit := by
  obtain ⟨hyear, hmonth⟩ := year_month_of_index hindex
  refine ⟨hyear, hmonth, hday, ?_⟩
  intro x hxyear hxmonth hxday
  have hlength := x.day_mem.2
  rw [hxyear, hxmonth] at hlength
  rw [le_iff_day_le hxyear hxmonth, hday]
  exact Nat.le_min.2 ⟨hxday, hlength⟩

theorem monthLength_of_ne {month : Nat} (h : month ≠ 2) (year other : Int) :
    monthLength year month = monthLength other month := by
  unfold monthLength
  split
  case h_8 => exact absurd rfl h
  all_goals rfl

theorem monthLength_february (year : Int) :
    monthLength year 2 = if LeapYear year then 29 else 28 := by
  simp only [monthLength, isLeap_eq_true_iff]

/-- In another year only February has another length, and only the leap day is lost. -/
theorem min_day_monthLength (d : Date) (year : Int) :
    min d.day (monthLength year d.month) =
      if d.month = 2 ∧ d.day = 29 ∧ ¬ LeapYear year then 28 else d.day := by
  have hday := d.day_mem.2
  by_cases hmonth : d.month = 2
  · rw [hmonth, monthLength_february] at hday
    rw [hmonth, monthLength_february]
    by_cases hleap : LeapYear year
    · rw [if_pos hleap, if_neg (by simp [hleap])]
      split at hday <;> omega
    · rw [if_neg hleap]
      by_cases hlast : d.day = 29
      · rw [if_pos ⟨rfl, hlast, hleap⟩, hlast]
        rfl
      · rw [if_neg (by simp [hlast])]
        split at hday <;> omega
  · rw [monthLength_of_ne hmonth year d.year, if_neg (by simp [hmonth])]
    exact Nat.min_eq_left hday

/-- Shifts by months and by years have a result wherever the calendar has one. -/
theorem plusMonths?_plusYears?_exact (d : Date) (n : Int64) :
    (match d.plusMonths? n with
      | some e => HasYear ((d.monthIndex + n.toInt) / 12) ∧
          e.IsLatest (d.monthIndex + n.toInt) d.day
      | none => ¬ HasYear ((d.monthIndex + n.toInt) / 12)) ∧
    match d.plusYears? n with
    | some e => HasYear (d.year + n.toInt) ∧ e.year = d.year + n.toInt ∧ e.month = d.month ∧
        e.day = if d.month = 2 ∧ d.day = 29 ∧ ¬ LeapYear (d.year + n.toInt) then 28 else d.day
    | none => ¬ HasYear (d.year + n.toInt) := by
  constructor
  · cases h : d.plusMonths? n with
    | some e =>
        obtain ⟨hindex, hday⟩ := plusMonths?_eq_some_iff.1 h
        have hlatest := IsLatest.of_index hindex hday
        exact ⟨hlatest.year ▸ e.year_mem, hlatest⟩
    | none =>
        rw [plusMonths?_eq] at h
        exact toDate?_plusMonths_eq_none_iff.1 h
  · cases h : d.plusYears? n with
    | some e =>
        obtain ⟨⟨hyear, hmonth⟩, hday⟩ := plusYears?_eq_some_iff.1 h
        rw [hmonth, min_day_monthLength, hyear] at hday
        exact ⟨hyear ▸ e.year_mem, hyear, hmonth, hday⟩
    | none =>
        have hm := d.month_mem
        have hyear : (d.monthIndex + 12 * n.toInt) / 12 = d.year + n.toInt := by
          rw [monthIndex]
          omega
        rw [plusYears?_eq, Day.plusYears, toDate?_plusMonths_eq_none_iff, hyear] at h
        exact h

theorem eq_month_of_index {d e : Date} (h : d.monthIndex = e.monthIndex) :
    d.year = e.year ∧ d.month = e.month := by
  obtain ⟨hdy, hdm⟩ := year_month_of_index h
  obtain ⟨hey, hem⟩ := year_month_of_index (e := e) rfl
  omega

/-- Shifts between dates of the calendar are far from the limits of a word. -/
theorem toInt_add_of_plusMonths? {d x s : Date} {m n : Int64} (hx : d.plusMonths? m = some x)
    (hs : x.plusMonths? n = some s) : (m + n).toInt = m.toInt + n.toInt := by
  have hxindex := (plusMonths?_eq_some_iff.1 hx).1
  have hsindex := (plusMonths?_eq_some_iff.1 hs).1
  have hdyear := d.year_mem
  have hdmonth := d.month_mem
  have hsyear := s.year_mem
  have hsmonth := s.month_mem
  unfold monthIndex at hxindex hsindex
  unfold minYear maxYear at hdyear hsyear
  apply toInt_add_of_mem
  omega

/-- The shift in one comes to the same month, with the day clamped only once. -/
theorem exists_plusMonths?_add {d x s : Date} {m n : Int64} (hx : d.plusMonths? m = some x)
    (hs : x.plusMonths? n = some s) :
    ∃ t, d.plusMonths? (m + n) = some t ∧ (t.year = s.year ∧ t.month = s.month) ∧
      t.day = min d.day (monthLength s.year s.month) := by
  have hsum := toInt_add_of_plusMonths? hx hs
  have hxindex := (plusMonths?_eq_some_iff.1 hx).1
  have hsindex := (plusMonths?_eq_some_iff.1 hs).1
  have hindex : s.monthIndex = d.monthIndex + (m + n).toInt := by omega
  cases ht : d.plusMonths? (m + n) with
  | none =>
      rw [plusMonths?_eq, toDate?_plusMonths_eq_none_iff, ← hindex,
        ← (year_month_of_index (e := s) rfl).1] at ht
      exact absurd s.year_mem ht
  | some t =>
      obtain ⟨htindex, htday⟩ := plusMonths?_eq_some_iff.1 ht
      obtain ⟨hyear, hmonth⟩ := eq_month_of_index (htindex.trans hindex.symm)
      rw [hyear, hmonth] at htday
      exact ⟨t, rfl, ⟨hyear, hmonth⟩, htday⟩

theorem dayNumber_add_day {d e : Date} (hyear : d.year = e.year) (hmonth : d.month = e.month) :
    d.dayNumber + e.day = e.dayNumber + d.day := by
  rw [dayNumber, dayNumber, hyear, hmonth]
  omega

theorem plusMonths?_zero (d : Date) : d.plusMonths? 0 = some d := by
  rw [plusMonths?_eq_some_iff]
  exact ⟨(Int.add_zero _).symm, (Nat.min_eq_left d.day_mem.2).symm⟩

theorem plusMonths?_in_two {d x s : Date} {m n : Int64} (hx : d.plusMonths? m = some x)
    (hs : x.plusMonths? n = some s) :
    (m + n).toInt = m.toInt + n.toInt ∧
      ∃ t, d.plusMonths? (m + n) = some t ∧ (t.year = s.year ∧ t.month = s.month) ∧ s ≤ t ∧
        t.dayNumber ≤ s.dayNumber + 3 ∧ (x.day = d.day → s = t) ∧ (d.day ≤ 28 → x.day = d.day) ∧
        (n = -m → t = d) := by
  obtain ⟨t, ht, ⟨hyear, hmonth⟩, htday⟩ := exists_plusMonths?_add hx hs
  have hxday := (plusMonths?_eq_some_iff.1 hx).2
  have hsday := (plusMonths?_eq_some_iff.1 hs).2
  -- Only the 29th, 30th and 31st are ever clamped, and never below the 28th.
  have hdlong := d.day_mem.2.trans (monthLength_mem d.year d.month).2
  have hxshort := (monthLength_mem x.year x.month).1
  have hsshort := (monthLength_mem s.year s.month).1
  have hdistance := dayNumber_add_day hyear hmonth
  refine ⟨toInt_add_of_plusMonths? hx hs, t, ht, ⟨hyear, hmonth⟩, ?_, ?_, ?_, ?_, ?_⟩
  · rw [le_iff_day_le hyear.symm hmonth.symm]
    omega
  · omega
  · intro hkept
    apply eq_of_numbers hyear.symm hmonth.symm
    rw [hsday, htday, hkept]
  · intro hshort
    omega
  · rintro rfl
    have hzero : m + -m = 0 := Int64.add_right_neg m
    rw [hzero, plusMonths?_zero, Option.some.injEq] at ht
    exact ht.symm

/-- In the first month of the calendar all three days are lost, on the way there and back. -/
theorem plusMonths?_in_two_first_month :
    let d : Date := ⟨-262143, 1, 31, by decide, by decide, by decide⟩
    let x : Date := ⟨-262143, 2, 28, by decide, by decide, by decide⟩
    let s : Date := ⟨-262143, 1, 28, by decide, by decide, by decide⟩
    (d.plusMonths? 1 = some x ∧ x.plusMonths? (-1) = some s) ∧
      (s.year = d.year ∧ s.month = d.month) ∧ s < d ∧ d.dayNumber ≤ s.dayNumber + 3 := by
  intro d x s
  have hx : d.plusMonths? 1 = some x := by decide
  have hs : x.plusMonths? (-1) = some s := by decide
  obtain ⟨-, t, -, ⟨hyear, hmonth⟩, hle, hdistance, -, -, hback⟩ := plusMonths?_in_two hx hs
  rw [hback rfl] at hyear hmonth hle hdistance
  exact ⟨⟨hx, hs⟩, ⟨hyear.symm, hmonth.symm⟩, lt_of_le_of_ne hle (by decide), hdistance⟩

end Date

end BracketToken.Calendar
