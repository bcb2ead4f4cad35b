import BracketToken.Calendar.Instant
import BracketToken.Proofs.Shift
import Mathlib.Data.Prod.Lex
import Mathlib.Order.Monotone.Basic

/-!
The order of time: dates and instants are compared from their coarsest part down. Day numbers follow
this order, and no shift of the calendar without limits turns it around.
-/

namespace BracketToken.Calendar

namespace Month

theorem index_ofIndex (n : Int) : (ofIndex n).index = n := by
  simp only [ofIndex, index]
  omega

theorem next_ofIndex (n : Int) : (ofIndex n).next = ofIndex (n + 1) := by
  rw [← ofIndex_index (ofIndex n).next, index_next, index_ofIndex]

theorem daysBefore_ofIndex_le {n k : Int} (h : n ≤ k) :
    (ofIndex n).daysBefore ≤ (ofIndex k).daysBefore := by
  refine monotone_int_of_le_succ (f := fun n => (ofIndex n).daysBefore) ?_ h
  intro n
  have hnext := (ofIndex n).daysBefore_next
  rw [next_ofIndex] at hnext
  omega

/-- A month is over before any later month begins. -/
theorem daysBefore_add_length_le {m k : Month} (h : m.index < k.index) :
    m.daysBefore + m.length ≤ k.daysBefore := by
  have hle := daysBefore_ofIndex_le (show m.index + 1 ≤ k.index from h)
  rw [← index_next, ofIndex_index, ofIndex_index, daysBefore_next] at hle
  exact hle

theorem index_injective {m k : Month} (h : m.index = k.index) : m = k := by
  rw [← ofIndex_index m, h, ofIndex_index]

end Month

namespace Day

instance : Preorder Day where
  le d e := d.serial ≤ e.serial
  le_refl d := Int.le_refl d.serial
  le_trans _ _ _ := Int.le_trans

/-- The month decides, and in one month the number of the day. -/
theorem le_iff {d e : Day} : d ≤ e ↔
    d.month.index < e.month.index ∨ d.month.index = e.month.index ∧ d.number ≤ e.number := by
  have hd := d.number_mem
  have he := e.number_mem
  change d.serial ≤ e.serial ↔ _
  unfold serial
  rcases Int.lt_trichotomy d.month.index e.month.index with hlt | heq | hgt
  · have hle := Month.daysBefore_add_length_le hlt
    omega
  · rw [Month.index_injective heq]
    omega
  · have hle := Month.daysBefore_add_length_le hgt
    omega

theorem year_le_of_le {d e : Day} (h : d ≤ e) : d.month.year ≤ e.month.year := by
  have hd := d.month.number_mem
  have he := e.month.number_mem
  rw [le_iff, Month.index, Month.index] at h
  omega

theorem monotone_plusDays (n : Int) : Monotone (plusDays · n) := by
  intro d e h
  change (d.plusDays n).serial ≤ (e.plusDays n).serial
  rw [serial_plusDays, serial_plusDays]
  exact Int.add_le_add_right h n

theorem month_plusMonths (d : Day) (n : Int) :
    (d.plusMonths n).month.index = d.month.index + n := by
  rw [plusMonths, Month.plus_eq_ofIndex]
  exact Month.index_ofIndex _

/-- Clamping may bring two days of one month together, but never turns them around. -/
theorem monotone_plusMonths (n : Int) : Monotone (plusMonths · n) := by
  intro d e h
  dsimp only
  rw [le_iff, month_plusMonths, month_plusMonths]
  rcases le_iff.1 h with hlt | ⟨heq, hle⟩
  · left
    omega
  · right
    refine ⟨by omega, ?_⟩
    simp only [plusMonths, Month.clamp, Month.index_injective heq]
    omega

theorem monotone_plusYears (n : Int) : Monotone (plusYears · n) := monotone_plusMonths (12 * n)

end Day

namespace Date

def rank (d : Date) : Int ×ₗ Nat ×ₗ Nat := toLex (d.year, toLex (d.month, d.day))

theorem rank_injective : Function.Injective rank := by
  intro d e h
  obtain ⟨hyear, hrest⟩ := Prod.mk.inj (toLex.injective h)
  obtain ⟨hmonth, hday⟩ := Prod.mk.inj (toLex.injective hrest)
  exact eq_of_numbers hyear hmonth hday

instance : LinearOrder Date := LinearOrder.lift' rank rank_injective

theorem lt_iff {d e : Date} : d < e ↔
    d.year < e.year ∨ d.year = e.year ∧ (d.month < e.month ∨ d.month = e.month ∧ d.day < e.day) := by
  change rank d < rank e ↔ _
  rw [rank, rank, Prod.Lex.toLex_lt_toLex, Prod.Lex.toLex_lt_toLex]

theorem le_iff_toDay_le {d e : Date} : d ≤ e ↔ d.toDay ≤ e.toDay := by
  have hd := d.month_mem
  have he := e.month_mem
  rw [← not_lt, lt_iff, Day.le_iff]
  simp only [toDay, Month.index]
  omega

theorem year_le_of_le {d e : Date} (h : d ≤ e) : d.year ≤ e.year :=
  Day.year_le_of_le (le_iff_toDay_le.1 h)

/-- The days that the calendar has lie together. -/
theorem exists_toDate?_between {a b : Date} {day : Day} (ha : a.toDay ≤ day) (hb : day ≤ b.toDay) :
    ∃ c, day.toDate? = some c := by
  cases h : day.toDate? with
  | some c => exact ⟨c, rfl⟩
  | none =>
      have hlow := Day.year_le_of_le ha
      have hhigh := Day.year_le_of_le hb
      exact absurd ⟨a.year_mem.1.trans hlow, hhigh.trans b.year_mem.2⟩ (Day.toDate?_eq_none_iff.1 h)

end Date

namespace TimeOfDay

/-- The hour, the minute, the second and the nanosecond. A leap second has more nanoseconds than
second 59 and so comes after it. -/
def rank (t : TimeOfDay) : Nat ×ₗ Nat ×ₗ Nat ×ₗ Nat :=
  toLex (t.hour, toLex (t.minute, toLex (t.second, t.nano)))

theorem rank_injective : Function.Injective rank := by
  intro t u h
  obtain ⟨hhour, hrest⟩ := Prod.mk.inj (toLex.injective h)
  obtain ⟨hminute, hrest⟩ := Prod.mk.inj (toLex.injective hrest)
  obtain ⟨hsecond, hnano⟩ := Prod.mk.inj (toLex.injective hrest)
  cases t
  cases u
  rw [mk.injEq]
  exact ⟨hhour, hminute, hsecond, hnano⟩

instance : LinearOrder TimeOfDay := LinearOrder.lift' rank rank_injective

end TimeOfDay

namespace Instant

def rank (i : Instant) : Date ×ₗ TimeOfDay := toLex (i.date, i.time)

theorem rank_injective : Function.Injective rank := by
  intro i j h
  obtain ⟨hdate, htime⟩ := Prod.mk.inj (toLex.injective h)
  cases i
  cases j
  rw [mk.injEq]
  exact ⟨hdate, htime⟩

instance : LinearOrder Instant := LinearOrder.lift' rank rank_injective

theorem lt_iff {i j : Instant} : i < j ↔ i.date < j.date ∨ i.date = j.date ∧ i.time < j.time :=
  Prod.Lex.toLex_lt_toLex

end Instant

theorem Date.monotone_midnight : Monotone midnight := by
  intro d e h
  rw [← not_lt, Instant.lt_iff]
  rintro (hlt | ⟨-, hlt⟩)
  · exact absurd hlt (not_lt.2 h)
  · exact lt_irrefl _ hlt

end BracketToken.Calendar
