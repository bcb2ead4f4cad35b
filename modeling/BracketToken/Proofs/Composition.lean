import BracketToken.Proofs.Evaluation

/-!
Relative tokens in two parts.

Adjusting by one list after another is adjusting by both in a row. Main statement: `resolve_append`,
a token resolves as its second part does from the date that its first part reaches, be that date
printable or not; a first part that leaves the calendar decides alone.
-/

namespace BracketToken.DateToken

open Calendar

/-- The events of both parts follow one another too. -/
theorem adjust_append (date : Date) (xs ys : List Adjustment) :
    adjust date (xs ++ ys) = adjust date xs >>= fun d => adjust d ys := by
  induction xs generalizing date with
  | nil => rw [List.nil_append, adjust, pure_bind]
  | cons a xs ih =>
      rw [List.cons_append, adjust, adjust]
      cases a.apply? date with
      | none => rfl
      | some next => simp only [bind_assoc, ih]

/-- The date that the adjustments lead to from the anchor's day, printable or not. -/
def reached (anchor : Anchor) (adjustments : List Adjustment) (today : Date) : Except Error Date :=
  (anchor.date today).bind fun start => (adjust start adjustments).outcome

theorem resolve_eq_of_reached (anchor : Anchor) (adjustments : List Adjustment) (today : Date) :
    (resolve (.relative anchor adjustments) today).outcome =
      ((reached anchor adjustments today).bind printable).bind fun d => .ok d.midnight :=
  resolve_relative_outcome anchor adjustments today

theorem reached_append (anchor : Anchor) (xs ys : List Adjustment) (today : Date) :
    reached anchor (xs ++ ys) today =
      (reached anchor xs today).bind fun d => (adjust d ys).outcome := by
  rw [reached, reached]
  cases anchor.date today with
  | error e => rfl
  | ok start =>
      change (adjust start (xs ++ ys)).outcome = _
      rw [adjust_append, Traced.outcome_bind]
      rfl

theorem reached_today (adjustments : List Adjustment) (d : Date) :
    reached .today adjustments d = (adjust d adjustments).outcome := by
  have hstay : d.plusDays? Anchor.today.daysFromToday = some d := by
    rw [Date.plusDays?_eq_some_iff]
    exact (Int.add_zero _).symm
  rw [reached, Anchor.date, hstay]
  rfl

/-- What is reached is where the journey ends, as long as the calendar has all of it. -/
theorem reached_outcome (anchor : Anchor) (adjustments : List Adjustment) (today : Date) :
    let start := today.toDay.plusDays anchor.offset
    match reached anchor adjustments today with
    | .ok d => (∀ day ∈ journey start adjustments, day.InCalendar) ∧
        d.toDay = destination start adjustments
    | .error e => (∃ day ∈ journey start adjustments, ¬ day.InCalendar) ∧
        ∃ cause, e = .outOfRange cause := by
  intro start
  rw [reached, Anchor.date_eq]
  cases h : start.toDate? with
  | none =>
      have hout := Day.toDate?_eq_none_iff.1 h
      exact ⟨⟨start, start_mem_journey _ _, hout⟩, _, rfl⟩
  | some date =>
      have hadjust := adjust_outcome date adjustments
      rw [Day.toDate?_eq_some_iff.1 h] at hadjust
      change match (adjust date adjustments).outcome with
        | .ok d => _
        | .error e => _
      cases hrun : (adjust date adjustments).outcome with
      | ok d =>
          rw [hrun] at hadjust
          exact hadjust
      | error e =>
          rw [hrun] at hadjust
          obtain ⟨hout, hcause⟩ := hadjust
          simp only [not_forall, exists_prop] at hout
          exact ⟨hout, hcause⟩

theorem resolve_append_of_reached {anchor : Anchor} {xs : List Adjustment} {today d : Date}
    (h : reached anchor xs today = .ok d) (ys : List Adjustment) :
    (resolve (.relative anchor (xs ++ ys)) today).outcome =
      (resolve (.relative .today ys) d).outcome := by
  rw [resolve_eq_of_reached, resolve_eq_of_reached, reached_append, reached_today, h]
  rfl

/-- Beyond the calendar nothing that follows is looked at. -/
theorem resolve_append_of_lost {anchor : Anchor} {xs : List Adjustment} {today : Date} {e : Error}
    (h : reached anchor xs today = .error e) (ys : List Adjustment) :
    (resolve (.relative anchor (xs ++ ys)) today).outcome = .error e := by
  rw [resolve_eq_of_reached, reached_append, h]
  rfl

theorem resolve_append (anchor : Anchor) (xs : List Adjustment) (today : Date) :
    let start := today.toDay.plusDays anchor.offset
    ((∀ day ∈ journey start xs, day.InCalendar) →
      ∃ d : Date, d.toDay = destination start xs ∧ ∀ ys,
        (resolve (.relative anchor (xs ++ ys)) today).outcome =
          (resolve (.relative .today ys) d).outcome) ∧
    ((∃ day ∈ journey start xs, ¬ day.InCalendar) →
      ∃ cause, (resolve (.relative anchor xs) today).outcome = .error (.outOfRange cause) ∧
        ∀ ys, (resolve (.relative anchor (xs ++ ys)) today).outcome =
          (resolve (.relative anchor xs) today).outcome) := by
  intro start
  have hreached := reached_outcome anchor xs today
  cases h : reached anchor xs today with
  | ok d =>
      rw [h] at hreached
      obtain ⟨hall, hend⟩ := hreached
      constructor
      · intro _
        exact ⟨d, hend, resolve_append_of_reached h⟩
      · rintro ⟨day, hday, hout⟩
        exact absurd (hall day hday) hout
  | error e =>
      rw [h] at hreached
      obtain ⟨⟨day, hday, hout⟩, cause, rfl⟩ := hreached
      have hlost := resolve_append_of_lost h []
      rw [List.append_nil] at hlost
      constructor
      · intro hall
        exact absurd (hall day hday) hout
      · intro _
        refine ⟨cause, hlost, ?_⟩
        intro ys
        rw [hlost, resolve_append_of_lost h]

/-- The day after the last one that can be written is reached all the same, and led back from. A
token that starts beyond the calendar cannot be led back. -/
theorem resolve_append_past_end :
    let lastPrinted : Date := ⟨9999, 12, 31, by decide, by decide, by decide⟩
    let past : Date := ⟨10000, 1, 1, by decide, by decide, by decide⟩
    let last : Date := ⟨262142, 12, 31, by decide, by decide, by decide⟩
    let forth : List Adjustment := [⟨1, .day⟩]
    let back : List Adjustment := [⟨-1, .month⟩]
    ((∀ day ∈ journey (lastPrinted.toDay.plusDays 0) forth, day.InCalendar) ∧
      (resolve (.relative .today forth) lastPrinted).outcome = .error (.outOfRange (.year past)) ∧
      (resolve (.relative .today (forth ++ back)) lastPrinted).outcome =
        (resolve (.relative .today back) past).outcome) ∧
    (∃ day ∈ journey (last.toDay.plusDays 1) back, ¬ day.InCalendar) ∧
      (resolve (.relative .tomorrow (back ++ back)) last).outcome =
        (resolve (.relative .tomorrow back) last).outcome := by
  intro lastPrinted past last forth back
  have hinside : ∀ day ∈ journey (lastPrinted.toDay.plusDays 0) forth, day.InCalendar := by
    intro day hday
    rw [journey, List.scanl_cons, List.scanl_nil, List.mem_cons, List.mem_singleton] at hday
    rcases hday with rfl | rfl
    · exact ⟨by decide, by decide⟩
    · exact ⟨by decide, by decide⟩
  have houtside : ∃ day ∈ journey (last.toDay.plusDays 1) back, ¬ day.InCalendar := by
    refine ⟨_, start_mem_journey _ _, ?_⟩
    rintro ⟨-, hyear⟩
    exact absurd hyear (by decide)
  obtain ⟨d, hd, hsame⟩ := (resolve_append .today forth lastPrinted).1 hinside
  have hend : past.toDay = destination (lastPrinted.toDay.plusDays 0) forth :=
    Day.serial_injective (by decide +kernel)
  obtain ⟨-, -, hlost⟩ := (resolve_append .tomorrow back last).2 houtside
  refine ⟨⟨hinside, by decide +kernel, ?_⟩, houtside, hlost back⟩
  rw [Date.toDay_injective (hend.trans hd.symm)]
  exact hsame back

end BracketToken.DateToken
