import BracketToken.DateToken.Resolution
import BracketToken.Proofs.Shift

/-!
Relative tokens against arithmetic without limits.

A token's journey is the list of days that it comes to in the calendar without limits: the day of
its anchor, and the day after each adjustment. Main statement: `resolve_relative`, a token resolves
to the end of its journey exactly when the calendar has every day of it and the last has a year of
four digits.
-/

namespace BracketToken.DateToken

open Calendar

def Anchor.offset : Anchor → Int
  | .today => 0
  | .tomorrow => 1
  | .yesterday => -1

/-- Where an adjustment leads in the calendar without limits. -/
def Adjustment.move (a : Adjustment) (d : Day) : Day :=
  match a.unit with
  | .year => d.plusYears a.amount.toInt
  | .month => d.plusMonths a.amount.toInt
  | .day => d.plusDays a.amount.toInt

def journey (start : Day) (adjustments : List Adjustment) : List Day :=
  adjustments.scanl (fun day a => a.move day) start

def destination (start : Day) (adjustments : List Adjustment) : Day :=
  adjustments.foldl (fun day a => a.move day) start

/-- What resolving asks of a journey. Years of more than four digits on the way do not matter. -/
structure Passable (start : Day) (adjustments : List Adjustment) : Prop where
  inCalendar : ∀ day ∈ journey start adjustments, day.InCalendar
  year_mem : 0 ≤ (destination start adjustments).month.year ∧
    (destination start adjustments).month.year ≤ 9999

theorem Anchor.toInt_daysFromToday (anchor : Anchor) :
    anchor.daysFromToday.toInt = anchor.offset := by
  cases anchor <;> decide

/-- The anchor's day in the calendar without limits, if the calendar has it. -/
theorem Anchor.date_eq (anchor : Anchor) (today : Date) :
    anchor.date today = match (today.toDay.plusDays anchor.offset).toDate? with
      | none => .error (.outOfRange (.anchor anchor today))
      | some date => .ok date := by
  cases h : (today.toDay.plusDays anchor.offset).toDate? with
  | none => rw [date, Date.plusDays?_eq, toInt_daysFromToday, h]
  | some d => rw [date, Date.plusDays?_eq, toInt_daysFromToday, h]

theorem Adjustment.apply?_eq (a : Adjustment) (d : Date) :
    a.apply? d = (a.move d.toDay).toDate? := by
  obtain ⟨amount, unit⟩ := a
  cases unit with
  | year => exact d.plusYears?_eq amount
  | month => exact d.plusMonths?_eq amount
  | day => exact d.plusDays?_eq amount

theorem journey_cons (start : Day) (a : Adjustment) (rest : List Adjustment) :
    journey start (a :: rest) = start :: journey (a.move start) rest := List.scanl_cons

theorem forall_mem_journey_cons {start : Day} {a : Adjustment} {rest : List Adjustment} :
    (∀ day ∈ journey start (a :: rest), day.InCalendar) ↔
      start.InCalendar ∧ ∀ day ∈ journey (a.move start) rest, day.InCalendar := by
  rw [journey_cons, List.forall_mem_cons]

theorem start_mem_journey (start : Day) (adjustments : List Adjustment) :
    start ∈ journey start adjustments := by
  cases adjustments with
  | nil => simp [journey]
  | cons a rest => simp [journey]

/-- Adjusting goes through while the journey stays in the calendar, and fails where it does not. -/
theorem adjust_outcome (date : Date) (adjustments : List Adjustment) :
    match (adjust date adjustments).outcome with
    | .ok last => (∀ day ∈ journey date.toDay adjustments, day.InCalendar) ∧
        last.toDay = destination date.toDay adjustments
    | .error e => (¬ ∀ day ∈ journey date.toDay adjustments, day.InCalendar) ∧
        ∃ cause, e = .outOfRange cause := by
  induction adjustments generalizing date with
  | nil =>
      refine ⟨?_, rfl⟩
      intro day hday
      rw [journey, List.scanl_nil, List.mem_singleton] at hday
      exact hday ▸ date.toDay_inCalendar
  | cons a rest ih =>
      rw [adjust, Adjustment.apply?_eq]
      rw [forall_mem_journey_cons]
      cases h : (a.move date.toDay).toDate? with
      | none =>
          have hout := Day.toDate?_eq_none_iff.1 h
          exact ⟨fun hall => hout (hall.2 _ (start_mem_journey _ _)), _, rfl⟩
      | some next =>
          have hnext := Day.toDate?_eq_some_iff.1 h
          have hrest := ih next
          rw [hnext] at hrest
          simp only [Traced.outcome_bind, Traced.outcome_log, Except.bind]
          cases hrun : (adjust next rest).outcome with
          | ok last =>
              rw [hrun] at hrest
              exact ⟨⟨date.toDay_inCalendar, hrest.1⟩, hrest.2⟩
          | error e =>
              rw [hrun] at hrest
              exact ⟨fun hall => hrest.1 hall.2, hrest.2⟩

theorem printable_eq (date : Date) :
    printable date = if 0 ≤ date.year ∧ date.year ≤ 9999 then .ok date
      else .error (.outOfRange (.year date)) := by
  simp only [printable, hasPlainYear, Bool.and_eq_true, decide_eq_true_eq]

/-- A relative token resolves to the midnight that its journey ends at, whenever the journey is
passable, and is out of range otherwise. -/
theorem resolve_relative (anchor : Anchor) (adjustments : List Adjustment) (today : Date) :
    let start := today.toDay.plusDays anchor.offset
    match (resolve (.relative anchor adjustments) today).outcome with
    | .ok instant => Passable start adjustments ∧ instant.time = .midnight ∧
        instant.date.toDay = destination start adjustments
    | .error e => ¬ Passable start adjustments ∧ ∃ cause, e = .outOfRange cause := by
  intro start
  simp only [resolve, dateOf, Traced.outcome_bind, Traced.outcome_ofExcept, Anchor.date,
    Date.plusDays?_eq, Anchor.toInt_daysFromToday]
  cases h : start.toDate? with
  | none =>
      have hout := Day.toDate?_eq_none_iff.1 h
      exact ⟨fun hpass => hout (hpass.inCalendar _ (start_mem_journey _ _)), _, rfl⟩
  | some date =>
      have hstart := Day.toDate?_eq_some_iff.1 h
      have hadjust := adjust_outcome date adjustments
      rw [hstart] at hadjust
      simp only [Except.bind]
      cases hrun : (adjust date adjustments).outcome with
      | error e =>
          rw [hrun] at hadjust
          exact ⟨fun hpass => hadjust.1 hpass.inCalendar, hadjust.2⟩
      | ok last =>
          rw [hrun] at hadjust
          obtain ⟨hall, hend⟩ := hadjust
          have hyear : last.year = (destination start adjustments).month.year := by rw [← hend]; rfl
          simp only [printable_eq, hyear]
          by_cases hmem : 0 ≤ (destination start adjustments).month.year ∧
              (destination start adjustments).month.year ≤ 9999
          · rw [if_pos hmem]
            exact ⟨⟨hall, hmem⟩, rfl, hend⟩
          · rw [if_neg hmem]
            exact ⟨fun hpass => hmem hpass.year_mem, _, rfl⟩

end BracketToken.DateToken
