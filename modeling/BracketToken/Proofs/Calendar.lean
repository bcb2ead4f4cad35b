import BracketToken.Calendar.DayNumber
import Mathlib.Logic.Function.Iterate
import Mathlib.Tactic.IntervalCases

/-!
The proleptic Gregorian calendar without limits: months and days of every year, counted one at a
time in either direction. Day numbers count these days too, and tell them apart.
-/

namespace BracketToken.Calendar

/-- Takes `n` steps forth, or `-n` steps back where `n` is negative. -/
def walk {α : Type} (forth back : α → α) : Int → α → α
  | .ofNat n => forth^[n]
  | .negSucc n => back^[n + 1]

theorem measure_iterate {α : Type} {step : α → α} {measure : α → Int} {gain : Int}
    (h : ∀ a, measure (step a) = measure a + gain) (n : Nat) (a : α) :
    measure (step^[n] a) = measure a + n * gain := by
  induction n with
  | zero => simp
  | succ n ih =>
      rw [Function.iterate_succ_apply', h, ih, Nat.cast_succ, Int.add_mul]
      omega

/-- What a step forth raises by one and a step back lowers by one tells how far a walk went. -/
theorem measure_walk {α : Type} {forth back : α → α} {measure : α → Int}
    (hf : ∀ a, measure (forth a) = measure a + 1) (hb : ∀ a, measure (back a) = measure a - 1)
    (n : Int) (a : α) : measure (walk forth back n a) = measure a + n := by
  cases n with
  | ofNat n =>
      rw [walk, measure_iterate hf]
      simp
  | negSucc n =>
      have hgain : ∀ a, measure (back a) = measure a + -1 := hb
      rw [walk, measure_iterate hgain]
      omega

/-- Every fourth year, but of the centuries only those that 400 divides. -/
def LeapYear (year : Int) : Prop := 4 ∣ year ∧ (100 ∣ year → 400 ∣ year)

instance (year : Int) : Decidable (LeapYear year) :=
  inferInstanceAs (Decidable (4 ∣ year ∧ (100 ∣ year → 400 ∣ year)))

theorem isLeap_eq_true_iff {year : Int} : isLeap year = true ↔ LeapYear year := by
  simp only [isLeap, LeapYear, Bool.and_eq_true, Bool.or_eq_true, decide_eq_true_eq]
  omega

@[ext] structure Month where
  year : Int
  number : Nat
  number_mem : 1 ≤ number ∧ number ≤ 12

namespace Month

def length (m : Month) : Nat :=
  if m.number = 2 then if LeapYear m.year then 29 else 28
  else if m.number ∈ [4, 6, 9, 11] then 30
  else 31

def next (m : Month) : Month :=
  if h : m.number < 12 then ⟨m.year, m.number + 1, by omega⟩ else ⟨m.year + 1, 1, by omega⟩

def prev (m : Month) : Month :=
  if h : 1 < m.number then ⟨m.year, m.number - 1, by have := m.number_mem; omega⟩
  else ⟨m.year - 1, 12, by omega⟩

def plus (m : Month) (n : Int) : Month := walk next prev n m

theorem length_eq (m : Month) : m.length = monthLength m.year m.number := by
  obtain ⟨year, number, hn⟩ := m
  obtain ⟨h1, h2⟩ := hn
  have hleap : isLeap year = true ↔ LeapYear year := isLeap_eq_true_iff
  interval_cases number <;> simp [length, monthLength, hleap]

theorem length_pos (m : Month) : 1 ≤ m.length := by
  have h := monthLength_mem m.year m.number
  rw [length_eq]
  omega

/-- The months since January of year 0. -/
def index (m : Month) : Int := 12 * m.year + m.number - 1

def ofIndex (n : Int) : Month := ⟨n / 12, (n % 12).toNat + 1, by omega⟩

theorem ofIndex_index (m : Month) : ofIndex m.index = m := by
  have hm := m.number_mem
  ext
  · simp only [ofIndex, index]
    omega
  · simp only [ofIndex, index]
    omega

theorem index_next (m : Month) : m.next.index = m.index + 1 := by
  unfold next index
  split
  · dsimp only
    omega
  · have := m.number_mem
    dsimp only
    omega

theorem index_prev (m : Month) : m.prev.index = m.index - 1 := by
  unfold prev index
  split
  · dsimp only
    omega
  · have := m.number_mem
    dsimp only
    omega

theorem plus_eq_ofIndex (m : Month) (n : Int) : m.plus n = ofIndex (m.index + n) := by
  rw [← ofIndex_index (m.plus n)]
  exact congrArg ofIndex (measure_walk index_next index_prev n m)

end Month

@[ext] structure Day where
  month : Month
  number : Nat
  number_mem : 1 ≤ number ∧ number ≤ month.length

def Month.first (m : Month) : Day := ⟨m, 1, Nat.le_refl 1, m.length_pos⟩

def Month.last (m : Month) : Day := ⟨m, m.length, m.length_pos, Nat.le_refl _⟩

/-- The day of the month with that number, or the last day of a month that is too short for it. -/
def Month.clamp (m : Month) (number : Nat) (h : 1 ≤ number) : Day :=
  ⟨m, min number m.length, by have := m.length_pos; omega⟩

namespace Day

def next (d : Day) : Day :=
  if h : d.number < d.month.length then ⟨d.month, d.number + 1, by omega⟩ else d.month.next.first

def prev (d : Day) : Day :=
  if h : 1 < d.number then ⟨d.month, d.number - 1, by have := d.number_mem; omega⟩
  else d.month.prev.last

def plusDays (d : Day) (n : Int) : Day := walk next prev n d

def plusMonths (d : Day) (n : Int) : Day := (d.month.plus n).clamp d.number d.number_mem.1

def plusYears (d : Day) (n : Int) : Day := d.plusMonths (12 * n)

end Day

/-- The days from the eve of 0001-01-01 to the eve of the month. -/
def Month.daysBefore (m : Month) : Int := daysBeforeYear m.year + daysBeforeMonth m.year m.number

theorem Month.daysBefore_next (m : Month) : m.next.daysBefore = m.daysBefore + m.length := by
  rw [length_eq]
  unfold next daysBefore
  split
  · have hs := daysBeforeMonth_succ m.year m.number_mem.1
    dsimp only
    omega
  · next h =>
      have hn : m.number = 12 := by have := m.number_mem; omega
      have hs : daysBeforeMonth m.year 13 = daysBeforeMonth m.year 12 + monthLength m.year 12 := rfl
      have hy := daysBeforeYear_next m.year
      have hfirst : daysBeforeMonth (m.year + 1) 1 = 0 := rfl
      rw [hn]
      dsimp only
      omega

theorem Month.next_prev (m : Month) : m.prev.next = m := by
  rw [← ofIndex_index m.prev.next, index_next, index_prev, Int.sub_add_cancel, ofIndex_index]

namespace Day

/-- The number of the day, where 0001-01-01 is day 1. -/
def serial (d : Day) : Int := d.month.daysBefore + d.number

theorem serial_next (d : Day) : d.next.serial = d.serial + 1 := by
  unfold next
  split
  · unfold serial
    dsimp only
    omega
  · next h =>
      have hd := d.number_mem
      have hm := d.month.daysBefore_next
      unfold serial
      dsimp only [Month.first]
      omega

theorem serial_prev (d : Day) : d.prev.serial = d.serial - 1 := by
  unfold prev
  split
  · unfold serial
    dsimp only
    omega
  · next h =>
      have hd := d.number_mem
      have hm := d.month.prev.daysBefore_next
      rw [Month.next_prev] at hm
      unfold serial
      dsimp only [Month.last]
      omega

theorem serial_plusDays (d : Day) (n : Int) : (d.plusDays n).serial = d.serial + n :=
  measure_walk serial_next serial_prev n d

theorem serial_mem_year (d : Day) :
    daysBeforeYear d.month.year < d.serial ∧ d.serial ≤ daysBeforeYear (d.month.year + 1) := by
  have hm := d.month.number_mem
  have hd := d.number_mem
  have hs := daysBeforeMonth_succ d.month.year hm.1
  have hmono := daysBeforeMonth_mono d.month.year (show d.month.number + 1 ≤ 13 by omega)
  rw [Month.length_eq] at hd
  rw [daysBeforeYear_next, serial, Month.daysBefore]
  omega

/-- Different days have different numbers: the number fixes the year, and within the year the count
through the months finds month and day. -/
theorem serial_injective {d e : Day} (h : d.serial = e.serial) : d = e := by
  have hyear : d.month.year = e.month.year := by
    rw [← yearOfDay_eq d.serial_mem_year.1 d.serial_mem_year.2, h]
    exact yearOfDay_eq e.serial_mem_year.1 e.serial_mem_year.2
  have find : ∀ c : Day, monthOfDay c.month.year (List.range' 1 12)
      (c.serial - daysBeforeYear c.month.year).toNat = some (c.month.number, c.number) := by
    intro c
    have hm := c.month.number_mem
    have hd := c.number_mem
    have hfirst : daysBeforeMonth c.month.year 1 = 0 := rfl
    rw [Month.length_eq] at hd
    rw [serial, Month.daysBefore, monthOfDay_eq_some_iff (Nat.le_refl 1) (by omega)]
    exact ⟨hm.1, by omega, hd.1, hd.2, by omega⟩
  have he := find e
  rw [← h, ← hyear, find d, Option.some.injEq, Prod.mk.injEq] at he
  exact Day.ext (Month.ext hyear he.1) he.2

theorem plusDays_eq_iff {d e : Day} {n : Int} : d.plusDays n = e ↔ e.serial = d.serial + n := by
  rw [← serial_plusDays]
  exact ⟨fun h => h ▸ rfl, fun h => (serial_injective h).symm⟩

end Day

end BracketToken.Calendar
