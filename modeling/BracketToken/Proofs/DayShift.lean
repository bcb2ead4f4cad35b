import BracketToken.Proofs.Evaluation
import BracketToken.Proofs.Chronology

/-!
Days one at a time, with month lengths and month ends alone.

A step forth or back looks at the length of a month, or at the ends of the next one; the day count
of a date plays no part in it. Main statement: `plusDays?_stepwise`, a shift by days is as many such
steps, and fails where one of them leaves the calendar.
-/

namespace BracketToken.Calendar

open Numeral

def monthAfter (year : Int) (month : Nat) : Int × Nat :=
  if month < 12 then (year, month + 1) else (year + 1, 1)

def monthBefore (year : Int) (month : Nat) : Int × Nat :=
  if 1 < month then (year, month - 1) else (year - 1, 12)

namespace Date

/-- The next day of the month, or else the first date of the month that follows. -/
def after? (d : Date) : Option Date :=
  if d.day < monthLength d.year d.month then of? d.year d.month (d.day + 1)
  else
    let month := monthAfter d.year d.month
    (monthEnds? month.1 month.2).map (·.1)

/-- The day before in the month, or else the last date of the month before. -/
def before? (d : Date) : Option Date :=
  if 1 < d.day then of? d.year d.month (d.day - 1)
  else
    let month := monthBefore d.year d.month
    (monthEnds? month.1 month.2).map (·.2)

/-- The date that `n` steps lead to, none of which leaves the calendar. -/
def steps? (step : Date → Option Date) : (n : Nat) → Date → Option Date
  | 0, d => some d
  | n + 1, d => (step d).bind (steps? step n)

end Date

theorem monthAfter_eq (m : Month) : monthAfter m.year m.number = (m.next.year, m.next.number) := by
  unfold monthAfter Month.next
  split <;> rfl

theorem monthBefore_eq (m : Month) :
    monthBefore m.year m.number = (m.prev.year, m.prev.number) := by
  unfold monthBefore Month.prev
  split <;> rfl

/-- A month has both ends in the calendar or none. -/
theorem monthEnds?_map (m : Month) :
    (monthEnds? m.year m.number).map (·.1) = m.first.toDate? ∧
      (monthEnds? m.year m.number).map (·.2) = m.last.toDate? := by
  by_cases h : minYear ≤ m.year ∧ m.year ≤ maxYear
  · rw [monthEnds?_eq h m.number_mem]
    constructor
    · exact (Day.toDate?_eq_some_iff.2 rfl).symm
    · refine (Day.toDate?_eq_some_iff.2 ?_).symm
      rw [Date.toDay_eq_iff]
      exact ⟨rfl, rfl, m.length_eq.symm⟩
  · have hfirst : m.first.toDate? = none := Day.toDate?_eq_none_iff.2 h
    have hlast : m.last.toDate? = none := Day.toDate?_eq_none_iff.2 h
    have hends : monthEnds? m.year m.number = none := by
      change m.first.toDate?.bind _ = none
      rw [hfirst]
      rfl
    rw [hends, hfirst, hlast]
    exact ⟨rfl, rfl⟩

namespace Date

theorem ofDayNumber?_serial (day : Day) : ofDayNumber? day.serial = day.toDate? := by
  ext e
  rw [ofDayNumber?_eq_some_iff, Day.toDate?_eq_some_iff]
  constructor
  · intro h
    exact Day.serial_injective h
  · rintro rfl
    rfl

theorem after?_eq (d : Date) : d.after? = ofDayNumber? (d.dayNumber + 1) := by
  have hserial : d.dayNumber + 1 = d.toDay.next.serial := d.toDay.serial_next.symm
  have hlength : d.toDay.month.length = monthLength d.year d.month := d.toDay.month.length_eq
  rw [hserial, ofDayNumber?_serial, after?, Day.next]
  by_cases h : d.day < monthLength d.year d.month
  · rw [if_pos h, dif_pos (hlength ▸ h)]
    rfl
  · rw [if_neg h, dif_neg (hlength ▸ h), ← (monthEnds?_map _).1]
    have hmonth := monthAfter_eq d.toDay.month
    exact hmonth ▸ rfl

theorem before?_eq (d : Date) : d.before? = ofDayNumber? (d.dayNumber + -1) := by
  have hserial : d.dayNumber + -1 = d.toDay.prev.serial := d.toDay.serial_prev.symm
  rw [hserial, ofDayNumber?_serial, before?, Day.prev]
  have hnumber : d.toDay.number = d.day := rfl
  by_cases h : 1 < d.day
  · rw [if_pos h, dif_pos (hnumber ▸ h)]
    rfl
  · rw [if_neg h, dif_neg (hnumber ▸ h), ← (monthEnds?_map _).2]
    have hmonth := monthBefore_eq d.toDay.month
    exact hmonth ▸ rfl

theorem exists_between {a b : Date} {n : Int} (ha : a.dayNumber ≤ n) (hb : n ≤ b.dayNumber) :
    ∃ c, ofDayNumber? n = some c := by
  have hserial : (a.toDay.plusDays (n - a.dayNumber)).serial = n := by
    rw [Day.serial_plusDays]
    change a.dayNumber + (n - a.dayNumber) = n
    omega
  generalize a.toDay.plusDays (n - a.dayNumber) = day at hserial
  subst hserial
  rw [ofDayNumber?_serial]
  exact exists_toDate?_between (a := a) (b := b) ha hb

/-- Where a step leaves the calendar, more of the same do not come back: it has no gaps. -/
theorem ofDayNumber?_eq_none_of_step {d : Date} {gain : Int} (n : Nat)
    (h : ofDayNumber? (d.dayNumber + gain) = none) :
    ofDayNumber? (d.dayNumber + gain + n * gain) = none := by
  cases hlast : ofDayNumber? (d.dayNumber + gain + n * gain) with
  | none => rfl
  | some b =>
      have hb := ofDayNumber?_eq_some_iff.1 hlast
      have hbetween : ∃ c, ofDayNumber? (d.dayNumber + gain) = some c := by
        rcases Int.le_total 0 gain with hgain | hgain
        · have := Int.mul_nonneg (Int.natCast_nonneg n) hgain
          exact exists_between (a := d) (b := b) (by omega) (by omega)
        · have := Int.mul_nonpos_of_nonneg_of_nonpos (Int.natCast_nonneg n) hgain
          exact exists_between (a := b) (b := d) (by omega) (by omega)
      obtain ⟨c, hc⟩ := hbetween
      rw [h] at hc
      cases hc

/-- Steps of one size lead as far as all of them together. -/
theorem steps?_eq {step : Date → Option Date} {gain : Int}
    (h : ∀ d, step d = ofDayNumber? (d.dayNumber + gain)) (n : Nat) (d : Date) :
    steps? step n d = ofDayNumber? (d.dayNumber + n * gain) := by
  induction n generalizing d with
  | zero =>
      refine (ofDayNumber?_eq_some_iff.2 ?_).symm
      simp
  | succ n ih =>
      have hsum : d.dayNumber + (n + 1 : Nat) * gain = d.dayNumber + gain + n * gain := by
        rw [Nat.cast_succ, Int.add_mul]
        omega
      rw [steps?, h, hsum]
      cases hfirst : ofDayNumber? (d.dayNumber + gain) with
      | some e => rw [Option.bind_some, ih, ofDayNumber?_eq_some_iff.1 hfirst]
      | none => rw [Option.bind_none, ofDayNumber?_eq_none_of_step n hfirst]

theorem before?_eq_some_iff {a b : Date} : b.before? = some a ↔ a.after? = some b := by
  rw [before?_eq, after?_eq, ofDayNumber?_eq_some_iff, ofDayNumber?_eq_some_iff]
  omega

/-- No two dates of the calendar are two hundred million days apart. -/
theorem dayNumber_mem (d : Date) : -100000000 ≤ d.dayNumber ∧ d.dayNumber ≤ 100000000 := by
  obtain ⟨hlow, hhigh⟩ := d.dayNumber_mem_year
  have hfirst := daysBeforeYear_mono d.year_mem.1
  have hlast := daysBeforeYear_mono (show d.year + 1 ≤ maxYear + 1 by have := d.year_mem; omega)
  have hstart : -100000000 ≤ daysBeforeYear minYear := by decide
  have hend : daysBeforeYear (maxYear + 1) ≤ 100000000 := by decide
  omega

theorem plusDays?_neg {d e : Date} {n : Int64} (h : d.plusDays? n = some e) :
    e.plusDays? (-n) = some d := by
  have hd := d.dayNumber_mem
  have he := e.dayNumber_mem
  have hn := plusDays?_eq_some_iff.1 h
  rw [plusDays?_eq_some_iff, toInt_neg_of_lt (by omega)]
  omega

theorem plusDays?_add {d e s : Date} {n m : Int64} (he : d.plusDays? n = some e)
    (hs : e.plusDays? m = some s) :
    (n + m).toInt = n.toInt + m.toInt ∧ d.plusDays? (n + m) = some s := by
  have hdmem := d.dayNumber_mem
  have hsmem := s.dayNumber_mem
  have hn := plusDays?_eq_some_iff.1 he
  have hm := plusDays?_eq_some_iff.1 hs
  have hsum : (n + m).toInt = n.toInt + m.toInt := toInt_add_of_mem (by omega)
  refine ⟨hsum, ?_⟩
  rw [plusDays?_eq_some_iff]
  omega

theorem plusDays?_stepwise (d : Date) (n : Int64) :
    (d.plusDays? n =
        if 0 ≤ n.toInt then steps? after? n.toInt.natAbs d else steps? before? n.toInt.natAbs d) ∧
      (∀ a b : Date, b.before? = some a ↔ a.after? = some b) ∧
      ∀ e, d.plusDays? n = some e → e.plusDays? (-n) = some d ∧
        ∀ m s, e.plusDays? m = some s →
          (n + m).toInt = n.toInt + m.toInt ∧ d.plusDays? (n + m) = some s := by
  refine ⟨?_, fun a b => before?_eq_some_iff, ?_⟩
  · by_cases h : 0 ≤ n.toInt
    · have hcount : n.toInt = n.toInt.natAbs * 1 := by omega
      rw [plusDays?_eq_ofDayNumber?, if_pos h, steps?_eq after?_eq, ← hcount]
    · have hcount : n.toInt = n.toInt.natAbs * -1 := by omega
      rw [plusDays?_eq_ofDayNumber?, if_neg h, steps?_eq before?_eq, ← hcount]
  · intro e he
    refine ⟨plusDays?_neg he, ?_⟩
    intro m s hs
    exact plusDays?_add he hs

/-- From the second day of the calendar to the first, and from there to the third. -/
theorem plusDays?_stepwise_first_day :
    let d : Date := ⟨-262143, 1, 2, by decide, by decide, by decide⟩
    let e : Date := ⟨-262143, 1, 1, by decide, by decide, by decide⟩
    let s : Date := ⟨-262143, 1, 3, by decide, by decide, by decide⟩
    (d.plusDays? (-1) = some e ∧ e.plusDays? 2 = some s) ∧
      e.plusDays? (- -1) = some d ∧ d.plusDays? (-1 + 2) = some s := by
  intro d e s
  have he : d.plusDays? (-1) = some e := by decide +kernel
  have hs : e.plusDays? 2 = some s := by decide +kernel
  obtain ⟨hback, hsum⟩ := (plusDays?_stepwise d (-1)).2.2 e he
  exact ⟨⟨he, hs⟩, hback, (hsum 2 s hs).2⟩

end Date

end BracketToken.Calendar
