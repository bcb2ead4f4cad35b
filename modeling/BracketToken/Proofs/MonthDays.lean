import BracketToken.Proofs.DayShift
import BracketToken.Proofs.MonthShift
import Mathlib.Data.List.Iterate

/-!
Months counted as days.

From the first day of a month, a shift by months is a shift by as many days as those months have
together. Main statement: `plusMonths?_eq_plusDays?`, the two lead to the same date, forth and back,
and both have none as soon as the month reached lies beyond the calendar.
-/

namespace BracketToken.Calendar

def totalDays (months : List Month) : Nat :=
  (months.map fun m => monthLength m.year m.number).sum

theorem totalDays_cons (m : Month) (months : List Month) :
    totalDays (m :: months) = m.length + totalDays months := by
  rw [totalDays, List.map_cons, List.sum_cons, ← m.length_eq, totalDays]

namespace Month

/-- The first `n` months from `m` on. -/
def following (m : Month) (n : Nat) : List Month := List.iterate next m n

/-- The last `n` months before `m`, the nearest first. -/
def preceding (m : Month) (n : Nat) : List Month := List.iterate prev m.prev n

theorem daysBefore_prev (m : Month) : m.prev.daysBefore + m.prev.length = m.daysBefore := by
  rw [← daysBefore_next, next_prev]

/-- The months between two of them fill the days between their first days. -/
theorem daysBefore_iterate_next (m : Month) (n : Nat) :
    (next^[n] m).daysBefore = m.daysBefore + totalDays (m.following n) := by
  induction n generalizing m with
  | zero => exact (Int.add_zero _).symm
  | succ n ih =>
      have hnext := m.daysBefore_next
      have hsum : totalDays (m.following (n + 1)) = m.length + totalDays (m.next.following n) :=
        totalDays_cons m _
      rw [Function.iterate_succ_apply, ih, hsum]
      omega

theorem daysBefore_iterate_prev (m : Month) (n : Nat) :
    (prev^[n] m).daysBefore + totalDays (m.preceding n) = m.daysBefore := by
  induction n generalizing m with
  | zero => exact Int.add_zero _
  | succ n ih =>
      have hprev := m.daysBefore_prev
      have hsum : totalDays (m.preceding (n + 1)) = m.prev.length + totalDays (m.prev.preceding n) :=
        totalDays_cons m.prev _
      have hrest := ih m.prev
      rw [Function.iterate_succ_apply, hsum]
      omega

theorem serial_first (m : Month) : m.first.serial = m.daysBefore + 1 := rfl

theorem plus_natCast (m : Month) (n : Nat) : m.plus n = next^[n] m := rfl

theorem plus_neg_natCast (m : Month) (n : Nat) : m.plus (-n) = prev^[n] m := by
  cases n with
  | zero => rfl
  | succ n => rfl

end Month

namespace Date

theorem plusMonths?_of_first {d : Date} {m : Month} (h : d.toDay = m.first) (count : Int64) :
    d.plusMonths? count = (m.plus count.toInt).first.toDate? := by
  have hclamp : m.first.plusMonths count.toInt = (m.plus count.toInt).first := by
    ext
    · rfl
    · rfl
    · exact Nat.min_eq_left (m.plus count.toInt).length_pos
  rw [plusMonths?_eq, h, hclamp]

theorem plusDays?_of_first {d : Date} {m k : Month} (h : d.toDay = m.first) {days : Int64}
    (hdays : m.daysBefore + days.toInt = k.daysBefore) :
    d.plusDays? days = k.first.toDate? := by
  have hd : d.dayNumber = d.toDay.serial := rfl
  have hserial : d.dayNumber + days.toInt = k.first.serial := by
    rw [hd, h, Month.serial_first, Month.serial_first]
    omega
  rw [plusDays?_eq_ofDayNumber?, hserial, ofDayNumber?_serial]

/-- Shifts by months and by days that both lead to the first date of a month. -/
structure Meet (d : Date) (count days : Int64) (m : Month) : Prop where
  same : d.plusMonths? count = d.plusDays? days
  first : d.plusMonths? count = (monthEnds? m.year m.number).map (·.1)
  none_iff : d.plusMonths? count = none ↔ ¬ HasYear m.year

theorem meet_of_first {d : Date} {m k : Month} {count days : Int64} (h : d.toDay = m.first)
    (hcount : m.plus count.toInt = k) (hdays : m.daysBefore + days.toInt = k.daysBefore) :
    d.Meet count days k := by
  have hmonths := plusMonths?_of_first h count
  rw [hcount] at hmonths
  refine ⟨hmonths.trans (plusDays?_of_first h hdays).symm, ?_, ?_⟩
  · rw [hmonths, (monthEnds?_map k).1]
  · rw [hmonths]
    exact Day.toDate?_eq_none_iff

theorem plusMonths?_eq_plusDays? (m : Month) (h : HasYear m.year) :
    ∃ first last, monthEnds? m.year m.number = some (first, last) ∧
      ∀ (n : Nat) (count days : Int64),
        (count.toInt = n → days.toInt = totalDays (m.following n) →
          first.Meet count days (Month.next^[n] m)) ∧
        (count.toInt = -n → days.toInt = -totalDays (m.preceding n) →
          first.Meet count days (Month.prev^[n] m)) := by
  refine ⟨_, _, monthEnds?_eq h m.number_mem, ?_⟩
  intro n count days
  constructor
  · intro hcount hdays
    refine meet_of_first (m := m) rfl (by rw [hcount, m.plus_natCast]) ?_
    rw [hdays, m.daysBefore_iterate_next]
  · intro hcount hdays
    refine meet_of_first (m := m) rfl (by rw [hcount, m.plus_neg_natCast]) ?_
    rw [hdays, ← m.daysBefore_iterate_prev n]
    omega

/-- From the last month of the calendar there is no way forth, neither by a month nor by its days,
and a way back over November. -/
theorem plusMonths?_eq_plusDays?_last_month :
    let m : Month := ⟨262142, 12, by decide⟩
    HasYear m.year ∧ ((1 : Int64).toInt = (1 : Nat) ∧ (31 : Int64).toInt = totalDays (m.following 1)) ∧
      ((-1 : Int64).toInt = -(1 : Nat) ∧ (-30 : Int64).toInt = -totalDays (m.preceding 1)) ∧
      ∃ first last, monthEnds? m.year m.number = some (first, last) ∧
        first.plusMonths? 1 = none ∧ first.plusDays? 31 = none ∧
        first.plusMonths? (-1) = first.plusDays? (-30) ∧ (first.plusDays? (-30)).isSome := by
  intro m
  have hyear : HasYear m.year := by decide
  have hforth : (31 : Int64).toInt = totalDays (m.following 1) := by decide
  have hback : (-30 : Int64).toInt = -totalDays (m.preceding 1) := by decide
  obtain ⟨first, last, hends, hmeet⟩ := plusMonths?_eq_plusDays? m hyear
  have forth := (hmeet 1 1 31).1 rfl hforth
  have back := (hmeet 1 (-1) (-30)).2 rfl hback
  have hlost : first.plusMonths? 1 = none := forth.none_iff.2 (by decide)
  refine ⟨hyear, ⟨rfl, hforth⟩, ⟨rfl, hback⟩, first, last, hends, hlost, ?_, back.same, ?_⟩
  · rw [← forth.same, hlost]
  · rw [← back.same, Option.isSome_iff_ne_none, ne_eq, back.none_iff]
    decide

end Date

end BracketToken.Calendar
