import BracketToken.Proofs.Composition
import BracketToken.Proofs.Monotone
import BracketToken.Proofs.Trace

/-!
What resolving a relative token logs.

The dates of a journey are its days up to the first that the calendar does not have. Each adjustment
leads from one of these dates to the next, and each that does is logged. Main statement:
`evaluate_journal`, the log of a token, the dates that its first adjustments resolve to and the text
of a failure are read off the dates of its journey.
-/

namespace BracketToken

namespace Calendar

/-- The dates of a row of days, up to the first day that the calendar does not have. -/
def datesWithin : List Day → List Date
  | [] => []
  | day :: days =>
    match day.toDate? with
    | none => []
    | some date => date :: datesWithin days

theorem datesWithin_of_none {day : Day} (h : day.toDate? = none) (days : List Day) :
    datesWithin (day :: days) = [] := by
  rw [datesWithin, h]

theorem datesWithin_of_some {day : Day} {date : Date} (h : day.toDate? = some date)
    (days : List Day) : datesWithin (day :: days) = date :: datesWithin days := by
  rw [datesWithin, h]

theorem map_toDay_datesWithin (days : List Day) :
    (datesWithin days).map Date.toDay = days.takeWhile (·.InCalendar) := by
  induction days with
  | nil => rfl
  | cons day days ih =>
      cases h : day.toDate? with
      | none =>
          have hout : ¬ day.InCalendar := Day.toDate?_eq_none_iff.1 h
          rw [datesWithin_of_none h, List.takeWhile_cons_of_neg (by simpa using hout), List.map_nil]
      | some date =>
          obtain rfl := Day.toDate?_eq_some_iff.1 h
          have hin := date.toDay_inCalendar
          rw [datesWithin_of_some h, List.takeWhile_cons_of_pos (by simpa using hin),
            List.map_cons, ih]

theorem length_datesWithin_le (days : List Day) : (datesWithin days).length ≤ days.length := by
  have hfront := List.takeWhile_prefix (l := days) (·.InCalendar)
  rw [← map_toDay_datesWithin] at hfront
  exact (List.length_map _).symm.trans_le hfront.length_le

end Calendar

namespace DateToken

open Calendar

theorem exists_journey_eq (start : Day) (adjustments : List Adjustment) :
    ∃ days, journey start adjustments = start :: days := by
  cases adjustments with
  | nil => exact ⟨[], List.scanl_nil⟩
  | cons a rest => exact ⟨_, journey_cons start a rest⟩

/-- The dates that a journey comes to before it leaves the calendar, the anchor's among them. -/
def stations (start : Day) (adjustments : List Adjustment) : List Date :=
  datesWithin (journey start adjustments)

theorem stations_of_none {start : Day} (h : start.toDate? = none) (adjustments : List Adjustment) :
    stations start adjustments = [] := by
  obtain ⟨days, hdays⟩ := exists_journey_eq start adjustments
  rw [stations, hdays, datesWithin_of_none h]

theorem stations_cons {start : Day} {date : Date} (h : start.toDate? = some date) (a : Adjustment)
    (rest : List Adjustment) :
    stations start (a :: rest) = date :: stations (a.move start) rest := by
  rw [stations, journey_cons, datesWithin_of_some h, stations]

theorem stations_of_applied {a : Adjustment} {d next : Date} (h : a.apply? d = some next)
    (rest : List Adjustment) : stations d.toDay (a :: rest) = d :: stations next.toDay rest := by
  rw [Adjustment.apply?_eq, Day.toDate?_eq_some_iff] at h
  rw [stations_cons d.toDate?_toDay, h]

theorem stations_of_lost {a : Adjustment} {d : Date} (h : a.apply? d = none)
    (rest : List Adjustment) : stations d.toDay (a :: rest) = [d] := by
  rw [Adjustment.apply?_eq] at h
  rw [stations_cons d.toDate?_toDay, stations_of_none h]

theorem exists_stations_eq (d : Date) (adjustments : List Adjustment) :
    ∃ rest, stations d.toDay adjustments = d :: rest := by
  obtain ⟨days, hdays⟩ := exists_journey_eq d.toDay adjustments
  refine ⟨datesWithin days, ?_⟩
  rw [stations, hdays, datesWithin_of_some d.toDate?_toDay]

theorem getElem?_stations_zero (start : Day) (adjustments : List Adjustment) :
    (stations start adjustments)[0]? = start.toDate? := by
  cases h : start.toDate? with
  | none =>
      rw [stations_of_none h]
      rfl
  | some d =>
      obtain ⟨rest, hrest⟩ := exists_stations_eq d adjustments
      rw [← Day.toDate?_eq_some_iff.1 h, hrest]
      rfl

/-- There is at most one station more than there are adjustments. -/
theorem exists_adjustment_of_station {start : Day} {adjustments : List Adjustment} {i : Nat}
    {d : Date} (h : (stations start adjustments)[i + 1]? = some d) :
    ∃ before a, (stations start adjustments)[i]? = some before ∧ adjustments[i]? = some a := by
  obtain ⟨hi, -⟩ := List.getElem?_eq_some_iff.1 h
  have hcount := length_datesWithin_le (journey start adjustments)
  have hlength : (journey start adjustments).length = adjustments.length + 1 := List.length_scanl
  rw [stations] at hi
  refine ⟨_, _, List.getElem?_eq_getElem (Nat.lt_of_succ_lt hi), List.getElem?_eq_getElem ?_⟩
  omega

/-- One step: from a station the next adjustment leads to the next station, or to none. -/
theorem getElem?_stations_succ {start : Day} {adjustments : List Adjustment} {i : Nat} {d : Date}
    {a : Adjustment} (hd : (stations start adjustments)[i]? = some d)
    (ha : adjustments[i]? = some a) : (stations start adjustments)[i + 1]? = a.apply? d := by
  induction adjustments generalizing start i with
  | nil => cases ha
  | cons b rest ih =>
      cases h : start.toDate? with
      | none =>
          rw [stations_of_none h] at hd
          cases hd
      | some date =>
          rw [stations_cons h] at hd ⊢
          rw [List.getElem?_cons_succ]
          cases i with
          | zero =>
              cases ha
              cases hd
              rw [getElem?_stations_zero, Adjustment.apply?_eq, Day.toDate?_eq_some_iff.1 h]
          | succ i =>
              rw [List.getElem?_cons_succ] at hd ha
              exact ih hd ha

theorem reached_append_cons {anchor : Anchor} {front : List Adjustment} {today d : Date}
    (h : reached anchor front today = .ok d) (a : Adjustment) (rest : List Adjustment) :
    reached anchor (front ++ a :: rest) today =
      (a.date d).bind fun next => (adjust next rest).outcome := by
  rw [reached_append, h, ← adjust_cons_outcome]
  rfl

/-- The first adjustments lead to the station of their number. -/
theorem reached_take {anchor : Anchor} {adjustments : List Adjustment} {today : Date} {i : Nat}
    {d : Date} (h : (stations (today.toDay.plusDays anchor.offset) adjustments)[i]? = some d) :
    reached anchor (adjustments.take i) today = .ok d := by
  induction i generalizing d with
  | zero =>
      rw [getElem?_stations_zero] at h
      rw [List.take_zero, reached, Anchor.date_eq, h]
      rfl
  | succ i ih =>
      obtain ⟨before, a, hbefore, ha⟩ := exists_adjustment_of_station h
      rw [getElem?_stations_succ hbefore ha] at h
      rw [List.take_add_one, ha, Option.toList_some, reached_append_cons (ih hbefore),
        Adjustment.date, h]
      rfl

/-- Where no station follows, the next adjustment fails, and with it all of them. -/
theorem reached_of_last {anchor : Anchor} {adjustments : List Adjustment} {today : Date} {i : Nat}
    {d : Date} {a : Adjustment}
    (hd : (stations (today.toDay.plusDays anchor.offset) adjustments)[i]? = some d)
    (ha : adjustments[i]? = some a)
    (hlast : (stations (today.toDay.plusDays anchor.offset) adjustments)[i + 1]? = none) :
    reached anchor adjustments today = .error (.outOfRange (.adjustment a d)) := by
  have hparts : adjustments = adjustments.take i ++ a :: adjustments.drop (i + 1) := by
    obtain ⟨hi, rfl⟩ := List.getElem?_eq_some_iff.1 ha
    rw [← List.drop_eq_getElem_cons hi, List.take_append_drop]
  rw [getElem?_stations_succ hd ha] at hlast
  rw [hparts, reached_append_cons (reached_take hd), Adjustment.date, hlast]
  rfl

/-- A run: each adjustment that leads to a station is logged with it. -/
theorem adjust_events (date : Date) (adjustments : List Adjustment) :
    (adjust date adjustments).events =
      adjustments.zipWith .appliedAdjustment (stations date.toDay adjustments).tail := by
  induction adjustments generalizing date with
  | nil => rfl
  | cons a rest ih =>
      cases h : a.apply? date with
      | none =>
          rw [adjust, h, stations_of_lost h]
          rfl
      | some next =>
          obtain ⟨tail, htail⟩ := exists_stations_eq next rest
          rw [adjust, h, stations_of_applied h, Traced.events_bind, Traced.outcome_log]
          dsimp only
          rw [ih next, htail]
          rfl

theorem resolve_relative_events (anchor : Anchor) (adjustments : List Adjustment) (today : Date) :
    (resolve (.relative anchor adjustments) today).events =
      adjustments.zipWith .appliedAdjustment
        (stations (today.toDay.plusDays anchor.offset) adjustments).tail := by
  rw [resolve, Traced.events_bind_of_silent fun _ => rfl, dateOf, Traced.events_bind,
    Traced.outcome_ofExcept, Anchor.date_eq]
  cases h : (today.toDay.plusDays anchor.offset).toDate? with
  | none =>
      rw [stations_of_none h, List.tail_nil, List.zipWith_nil_right]
      rfl
  | some start =>
      rw [← Day.toDate?_eq_some_iff.1 h, ← adjust_events]
      exact Traced.events_bind_of_silent fun _ => rfl

theorem read_events_of_relative {token : String} {anchor : Anchor} {adjustments : List Adjustment}
    (h : (read token).outcome = .ok (.relative anchor adjustments)) :
    (read token).events = [.readingDateToken token, .relativeGrammar token] := by
  rw [read_outcome] at h
  cases hinner : Bracket.inner? token.toList with
  | none =>
      rw [hinner] at h
      cases h
  | some body =>
      cases hsplit : Anchor.split? body with
      | none =>
          simp only [hinner, hsplit] at h
          cases hb : boundary token body with
          | error e =>
              rw [hb] at h
              cases h
          | ok b =>
              rw [hb] at h
              cases h
      | some opening =>
          rw [read, Traced.events_bind, Traced.outcome_log, hinner]
          dsimp only
          rw [ofBody, hsplit]
          rfl

theorem evaluate_events {token : String} {tree : DateToken} (h : (read token).outcome = .ok tree)
    (now : Instant) :
    (evaluate token now).events = (read token).events ++ ((resolve tree now.date).events ++
      match (evaluate token now).outcome with
      | .ok instant => [.resolvedDateToken token instant]
      | .error _ => []) := by
  rw [evaluate_outcome, evaluate, Traced.events_bind, h]
  dsimp only [Except.bind]
  rw [Traced.events_bind]
  cases (resolve tree now.date).outcome with
  | error e => rfl
  | ok instant => rfl

/-- The log shows the token, the grammar, every adjustment with the date that it leads to until one
leaves the calendar, and the instant if there is one. The first adjustments alone resolve to the
date that is shown with the last of them, unless no four digits write its year; and the adjustment
that leaves the calendar fails from the last date that is shown, or from the anchor's. -/
theorem evaluate_journal {token : String} {anchor : Anchor} {adjustments : List Adjustment}
    (h : (read token).outcome = .ok (.relative anchor adjustments)) (now : Instant) :
    let start := now.date.toDay.plusDays anchor.offset
    let dates := stations start adjustments
    let run := evaluate token now
    dates.map Date.toDay = (journey start adjustments).takeWhile (·.InCalendar) ∧
      run.events.map Event.shown =
        ⟨.debug, "parsing date token", [("token", token)]⟩ ::
        ⟨.debug, "using relative date grammar", [("token", token)]⟩ ::
        (adjustments.zipWith (fun a d => ⟨.debug, "applied adjustment",
            [("adjustment", a.text), ("date", d.text)]⟩) dates.tail ++
          match run.outcome with
          | .ok instant => [⟨.debug, "resolved date token",
              [("token", token), ("instant", instantField instant)]⟩]
          | .error _ => []) ∧
      (∀ i d, dates[i]? = some d →
        (resolve ((relative anchor adjustments).cut i) now.date).outcome =
          if 0 ≤ d.year ∧ d.year ≤ 9999 then .ok d.midnight
          else .error (.outOfRange (.year d))) ∧
      ∀ j a, dates.length = j + 1 → adjustments[j]? = some a →
        ∃ d cause, dates.getLast? = some d ∧ run.outcome = .error (.outOfRange cause) ∧
          cause.message = a.text ++ " from " ++ d.text := by
  intro start dates run
  refine ⟨map_toDay_datesWithin _, ?_, ?_, ?_⟩
  · rw [evaluate_events h, read_events_of_relative h, resolve_relative_events, List.map_append,
      List.map_append, List.map_zipWith]
    cases run.outcome with
    | ok instant => rfl
    | error e => rfl
  · intro i d hd
    rw [cut, resolve_eq_of_reached, reached_take hd]
    dsimp only [Except.bind]
    rw [printable_eq]
    by_cases hyear : 0 ≤ d.year ∧ d.year ≤ 9999
    · rw [if_pos hyear, if_pos hyear]
    · rw [if_neg hyear, if_neg hyear]
  · intro j a hlength ha
    obtain ⟨d, hd⟩ : ∃ d, dates[j]? = some d := ⟨_, List.getElem?_eq_getElem (by omega)⟩
    have hlast : dates[j + 1]? = none := List.getElem?_eq_none (by omega)
    refine ⟨d, .adjustment a d, ?_, ?_, rfl⟩
    · rw [List.getLast?_eq_getElem?, hlength]
      exact hd
    · rw [evaluate_outcome, h]
      dsimp only [Except.bind]
      rw [resolve_eq_of_reached, reached_of_last hd ha hlast]
      rfl

/-- A year of five digits is shown on the way, though no token stops there. The next to last
adjustment leaves the calendar, and the last is not looked at. -/
theorem evaluate_journal_lost :
    let token := "[TOMORROW-3MONTH+9000YEAR-9000YEAR+262142YEAR-1DAY]"
    let adjustments : List Adjustment :=
      [⟨-3, .month⟩, ⟨9000, .year⟩, ⟨-9000, .year⟩, ⟨262142, .year⟩, ⟨-1, .day⟩]
    let today : Date := ⟨2024, 5, 30, by decide, by decide, by decide⟩
    let leap : Date := ⟨2024, 2, 29, by decide, by decide, by decide⟩
    let far : Date := ⟨11024, 2, 29, by decide, by decide, by decide⟩
    let run := evaluate token today.midnight
    (read token).outcome = .ok (.relative .tomorrow adjustments) ∧
      run.events.map Event.shown =
        [⟨.debug, "parsing date token", [("token", token)]⟩,
          ⟨.debug, "using relative date grammar", [("token", token)]⟩,
          ⟨.debug, "applied adjustment", [("adjustment", "-3MONTH"), ("date", "2024-02-29")]⟩,
          ⟨.debug, "applied adjustment", [("adjustment", "+9000YEAR"), ("date", "+11024-02-29")]⟩,
          ⟨.debug, "applied adjustment", [("adjustment", "-9000YEAR"), ("date", "2024-02-29")]⟩] ∧
      (resolve ((relative .tomorrow adjustments).cut 2) today).outcome =
        .error (.outOfRange (.year far)) ∧
      (resolve ((relative .tomorrow adjustments).cut 3) today).outcome = .ok leap.midnight ∧
      ∃ cause, run.outcome = .error (.outOfRange cause) ∧
        cause.message = "+262142YEAR from 2024-02-29" := by
  intro token adjustments today leap far run
  have hread : (read token).outcome = .ok (.relative .tomorrow adjustments) := by decide +kernel
  let first : Date := ⟨2024, 5, 31, by decide, by decide, by decide⟩
  have hstart : today.midnight.date.toDay.plusDays Anchor.tomorrow.offset = first.toDay :=
    (Day.toDate?_eq_some_iff.1 (by decide +kernel)).symm
  have hback : Adjustment.apply? ⟨-3, .month⟩ first = some leap := by decide +kernel
  have hout : Adjustment.apply? ⟨9000, .year⟩ leap = some far := by decide +kernel
  have hhome : Adjustment.apply? ⟨-9000, .year⟩ far = some leap := by decide +kernel
  have hlast : Adjustment.apply? ⟨262142, .year⟩ leap = none := by decide +kernel
  have hdates : stations first.toDay adjustments = [first, leap, far, leap] := by
    rw [stations_of_applied hback, stations_of_applied hout, stations_of_applied hhome,
      stations_of_lost hlast]
  obtain ⟨-, hlines, hcut, hlost⟩ := evaluate_journal hread today.midnight
  rw [hstart, hdates] at hlines hcut hlost
  obtain ⟨d, cause, hd, hrun, hmessage⟩ := hlost 3 ⟨262142, .year⟩ rfl rfl
  cases hd
  refine ⟨hread, ?_, (hcut 2 far rfl).trans (if_neg (by decide)),
    (hcut 3 leap rfl).trans (if_pos (by decide)), cause, hrun, hmessage.trans (by decide +kernel)⟩
  rw [hrun] at hlines
  refine hlines.trans ?_
  dsimp only
  decide +kernel

end DateToken

end BracketToken
