import BracketToken.Calendar.Shift
import BracketToken.Proofs.Calendar
import BracketToken.Proofs.Numeral

/-!
Shifting a date is shifting its day in the calendar without limits, and then asking whether the
calendar has the day reached. No machine word on the way refuses a day that the calendar has.
-/

namespace BracketToken.Calendar

open Numeral

def Day.InCalendar (d : Day) : Prop := minYear ≤ d.month.year ∧ d.month.year ≤ maxYear

instance : DecidablePred Day.InCalendar :=
  fun d => inferInstanceAs (Decidable (minYear ≤ d.month.year ∧ d.month.year ≤ maxYear))

def Date.toDay (d : Date) : Day :=
  ⟨⟨d.year, d.month, d.month_mem⟩, d.day, by rw [Month.length_eq]; exact d.day_mem⟩

/-- The date that a day is, if the calendar has it. -/
def Day.toDate? (d : Day) : Option Date := Date.of? d.month.year d.month.number d.number

theorem Date.toDay_inCalendar (d : Date) : d.toDay.InCalendar := d.year_mem

theorem Date.toDay_eq_iff {d : Date} {e : Day} :
    d.toDay = e ↔ d.year = e.month.year ∧ d.month = e.month.number ∧ d.day = e.number := by
  constructor
  · rintro rfl
    exact ⟨rfl, rfl, rfl⟩
  · rintro ⟨hy, hm, hd⟩
    exact Day.ext (Month.ext hy hm) hd

theorem Date.toDay_injective {d e : Date} (h : d.toDay = e.toDay) : d = e := by
  obtain ⟨hy, hm, hd⟩ := toDay_eq_iff.1 h
  exact eq_of_numbers hy hm hd

theorem Day.toDate?_eq_some_iff {d : Day} {e : Date} : d.toDate? = some e ↔ e.toDay = d := by
  rw [toDate?, Date.of?_eq_some_iff, Date.toDay_eq_iff]

theorem Date.toDate?_toDay (d : Date) : d.toDay.toDate? = some d := Day.toDate?_eq_some_iff.2 rfl

theorem Day.toDate?_eq_none_iff {d : Day} : d.toDate? = none ↔ ¬ d.InCalendar := by
  have hd := d.number_mem
  rw [Month.length_eq] at hd
  unfold toDate? Date.of?
  split
  · next h => simp only [reduceCtorEq, InCalendar, h.1, and_self, not_true_eq_false]
  · next h => exact iff_of_true rfl fun hy => h ⟨hy, d.month.number_mem, hd⟩

namespace Date

/-- Forwards and backwards, the day number changes by exactly `n`. -/
theorem plusDays?_eq_ofDayNumber? (d : Date) (n : Int64) :
    d.plusDays? n = ofDayNumber? (d.dayNumber + n.toInt) := by
  rw [plusDays?]
  split
  · next h =>
      rw [Int64.le_iff_toInt_le, Int64.toInt_zero] at h
      rw [addDays?, Int.natAbs_of_nonneg h]
  · next h =>
      rw [Int64.le_iff_toInt_le, Int64.toInt_zero] at h
      have hsize : (n.toInt.natAbs : Int) = -n.toInt := by omega
      rw [subDays?, hsize, Int.sub_neg]

theorem plusDays?_eq_some_iff {d e : Date} {n : Int64} :
    d.plusDays? n = some e ↔ e.dayNumber = d.dayNumber + n.toInt := by
  rw [plusDays?_eq_ofDayNumber?, ofDayNumber?_eq_some_iff]

theorem plusDays?_eq (d : Date) (n : Int64) :
    d.plusDays? n = (d.toDay.plusDays n.toInt).toDate? := by
  ext e
  rw [Day.toDate?_eq_some_iff, plusDays?_eq_some_iff, eq_comm (a := e.toDay), Day.plusDays_eq_iff]
  exact Iff.rfl

/-- Clamping into the month with that index, said in the numbers of the date reached. -/
theorem toDay_eq_clamp_iff {d e : Date} {count : Int} :
    e.toDay = (Month.ofIndex count).clamp d.toDay.number d.toDay.number_mem.1 ↔
      of? (count / 12) ((count % 12).toNat + 1)
        (min d.day (monthLength (count / 12) ((count % 12).toNat + 1))) = some e := by
  rw [toDay_eq_iff, of?_eq_some_iff]
  simp only [Month.clamp, Month.length_eq, Month.ofIndex, toDay]

theorem plusMonths?_eq (d : Date) (n : Int64) :
    d.plusMonths? n = (d.toDay.plusMonths n.toInt).toDate? := by
  have hd := d.year_mem
  have hm := d.month_mem
  have hcount : d.toDay.month.index = d.year * 12 + (d.month - 1 : Nat) := by
    simp only [toDay, Month.index]
    omega
  ext e
  rw [Day.toDate?_eq_some_iff, Day.plusMonths, Month.plus_eq_ofIndex, toDay_eq_clamp_iff, hcount]
  simp only [plusMonths?, bind, Option.bind_eq_some_iff, int64?_eq_some_iff, int32?_eq_some_iff,
    monthOfCount]
  constructor
  · rintro ⟨count, hc, moved, hmoved, year, ⟨rfl, -⟩, h⟩
    rw [hmoved, hc] at h
    exact h
  · intro h
    have hy := (of?_eq_some_iff.1 h).1
    have he := e.year_mem
    unfold minYear maxYear at hd he
    obtain ⟨count, hc⟩ := exists_int64 (n := d.year * 12 + (d.month - 1 : Nat)) (by omega)
    obtain ⟨moved, hmoved⟩ := exists_int64 (n := count.toInt + n.toInt) (by omega)
    refine ⟨count, hc, moved, hmoved, moved.toInt / 12, ⟨rfl, by omega⟩, ?_⟩
    rw [hmoved, hc]
    exact h

theorem plusYears?_eq (d : Date) (n : Int64) :
    d.plusYears? n = (d.toDay.plusYears n.toInt).toDate? := by
  ext e
  simp only [plusYears?, bind, Option.bind_eq_some_iff, int64?_eq_some_iff]
  constructor
  · rintro ⟨months, hmonths, h⟩
    rw [plusMonths?_eq, hmonths, Int.mul_comm] at h
    exact h
  · intro h
    have hd := d.year_mem
    have hm := d.month_mem
    have he := e.year_mem
    have hy : e.year = (12 * d.year + d.month - 1 + 12 * n.toInt) / 12 := by
      have := Day.toDate?_eq_some_iff.1 h
      rw [Day.plusYears, Day.plusMonths, Month.plus_eq_ofIndex] at this
      exact congrArg (fun day => day.month.year) this
    unfold minYear maxYear at hd he
    obtain ⟨months, hmonths⟩ := exists_int64 (n := n.toInt * 12) (by omega)
    refine ⟨months, hmonths, ?_⟩
    rw [plusMonths?_eq, hmonths, Int.mul_comm]
    exact h

end Date

end BracketToken.Calendar
