import BracketToken.Proofs.Evaluation

/-!
What is left to the clock once a date token is read.

Reading alone decides about the errors of the grammar and about month boundaries. Main statement:
`evaluate_settled`, a clock can only change what a relative token comes to, and it does so by its
date alone: either it leads to an instant or out of the range of dates.
-/

namespace BracketToken.DateToken

open Calendar

def Error.IsOutOfRange (e : Error) : Prop := ∃ cause, e = .outOfRange cause

theorem isOutOfRange_of_anchor {anchor : Anchor} {today : Date} {e : Error}
    (h : anchor.date today = .error e) : e.IsOutOfRange := by
  rw [Anchor.date] at h
  split at h
  · cases h
    exact ⟨_, rfl⟩
  · cases h

theorem isOutOfRange_of_adjust {date : Date} {adjustments : List Adjustment} {e : Error}
    (h : (adjust date adjustments).outcome = .error e) : e.IsOutOfRange := by
  have hadjust := adjust_outcome date adjustments
  rw [h] at hadjust
  exact hadjust.2

theorem isOutOfRange_of_printable {date : Date} {e : Error} (h : printable date = .error e) :
    e.IsOutOfRange := by
  rw [printable_eq] at h
  split at h
  · cases h
  · cases h
    exact ⟨_, rfl⟩

/-- Each step of a relative token fails for one kind of reason only. -/
theorem isOutOfRange_of_relative {anchor : Anchor} {adjustments : List Adjustment} {today : Date}
    {e : Error} (h : (resolve (.relative anchor adjustments) today).outcome = .error e) :
    e.IsOutOfRange := by
  rw [resolve_relative_outcome, bind_eq_error_iff, bind_eq_error_iff, bind_eq_error_iff] at h
  rcases h with ((hanchor | ⟨start, -, hadjust⟩) | ⟨last, -, hlast⟩) | ⟨date, -, hmidnight⟩
  · exact isOutOfRange_of_anchor hanchor
  · exact isOutOfRange_of_adjust hadjust
  · exact isOutOfRange_of_printable hlast
  · cases hmidnight

theorem evaluate_of_read_error {token : String} {e : Error} (h : (read token).outcome = .error e)
    (now : Instant) : (evaluate token now).outcome = .error e := by
  rw [evaluate_outcome, h]
  rfl

theorem evaluate_of_read_relative {token : String} {anchor : Anchor}
    {adjustments : List Adjustment} (h : (read token).outcome = .ok (.relative anchor adjustments))
    (now : Instant) :
    (evaluate token now).outcome = (resolve (.relative anchor adjustments) now.date).outcome := by
  rw [evaluate_outcome, h]
  rfl

/-- The year was judged when the token was read, so its month has an edge on every day. -/
theorem exists_instant_of_read_boundary {token : String} {b : MonthBoundary}
    (h : (read token).outcome = .ok (.monthBoundary b)) :
    ∃ instant, ∀ now, (evaluate token now).outcome = .ok instant := by
  obtain ⟨body, -, hb⟩ := exists_body_of_read_boundary h
  obtain ⟨date, hdate, -⟩ := exists_date_of_boundary hb
  refine ⟨date.midnight, fun now => ?_⟩
  rw [evaluate_outcome, h]
  dsimp only [Except.bind]
  rw [resolve_monthBoundary_outcome, hdate]
  rfl

/-- The time of day is not looked at, a leap second or not. -/
theorem evaluate_congr_date (token : String) {now now' : Instant} (h : now.date = now'.date) :
    evaluate token now = evaluate token now' := by
  rw [evaluate, evaluate, h]

/-- Two runs of one token under two clocks. -/
theorem evaluate_settled (token : String) (now now' : Instant) :
    match (read token).outcome with
    | .error e =>
        (evaluate token now).outcome = .error e ∧ (evaluate token now').outcome = .error e
    | .ok (.monthBoundary _) =>
        ∃ instant, (evaluate token now).outcome = .ok instant ∧
          (evaluate token now').outcome = .ok instant
    | .ok (.relative _ _) =>
        (∀ e, (evaluate token now).outcome = .error e → ∃ cause, e = .outOfRange cause) ∧
          (now.date = now'.date → evaluate token now = evaluate token now') := by
  cases hread : (read token).outcome with
  | error e => exact ⟨evaluate_of_read_error hread now, evaluate_of_read_error hread now'⟩
  | ok tree =>
      cases tree with
      | monthBoundary b =>
          obtain ⟨instant, hinstant⟩ := exists_instant_of_read_boundary hread
          exact ⟨instant, hinstant now, hinstant now'⟩
      | relative anchor adjustments =>
          refine ⟨fun e he => ?_, evaluate_congr_date token⟩
          rw [evaluate_of_read_relative hread] at he
          exact isOutOfRange_of_relative he

/-- The last day of the calendar, at its start and in a leap second: no day follows it, and it is
the first step that leads out of the range. -/
theorem evaluate_settled_last_day :
    let last : Date := ⟨262142, 12, 31, by decide, by decide, by decide⟩
    let leap : Instant := ⟨last,
      ⟨23, 59, 59, 1500000000, by decide, by decide, by decide, by decide, by decide⟩⟩
    let token := "[TOMORROW-300000YEAR]"
    ((evaluate token leap).outcome = .error (.outOfRange (.anchor .tomorrow last)) ∧
        leap.date = last.midnight.date) ∧
      (∃ cause, Error.outOfRange (.anchor .tomorrow last) = .outOfRange cause) ∧
        evaluate token leap = evaluate token last.midnight := by
  intro last leap token
  have hread : (read token).outcome = .ok (.relative .tomorrow [⟨-300000, .year⟩]) := by
    decide +kernel
  have herror : (evaluate token leap).outcome = .error (.outOfRange (.anchor .tomorrow last)) := by
    decide +kernel
  have hsettled := evaluate_settled token leap last.midnight
  rw [hread] at hsettled
  exact ⟨⟨herror, rfl⟩, hsettled.1 _ herror, hsettled.2 rfl⟩

end BracketToken.DateToken
