import BracketToken.Proofs.DateFault
import BracketToken.Proofs.Range
import BracketToken.Proofs.Trace

/-!
What is logged about a refused range token.

The error of a refused range token names the whole token and nothing else; what is wrong with it is
logged. Main statement: `range_read_diagnosed`, one line tells it, and there is such a line exactly
for the refused tokens that one pair of brackets encloses.
-/

namespace BracketToken.DateRange

open Calendar DateToken

/-- What is wrong with a range token, as the log shows it: how many pieces it has, in decimal digits,
or the fault of the first piece that is no boundary. -/
inductive Diagnosis (token : String) : Shown → Prop
  | parts {body pieces} : Bracket.Encloses token.toList body → Text.Pieces body pieces →
      pieces.length ≠ 2 →
      Diagnosis token ⟨.debug, "range token does not have two halves",
        [("token", token), ("parts", toString pieces.length)]⟩
  | start {body start finish e} : Bracket.Encloses token.toList body →
      Text.Pieces body [start, finish] → BoundaryFault token start e →
      Diagnosis token ⟨.debug, "range half rejected",
        [("token", token), ("half", .ofList start), ("error", e.message)]⟩
  | finish {body start finish e} : Bracket.Encloses token.toList body →
      Text.Pieces body [start, finish] → (∀ e, ¬ BoundaryFault token start e) →
      BoundaryFault token finish e →
      Diagnosis token ⟨.debug, "range half rejected",
        [("token", token), ("half", .ofList finish), ("error", e.message)]⟩

/-- The date of a boundary is never at fault. -/
theorem boundaryInstant_eq_error_iff {token : String} {body : List Char} {e : Error} :
    boundaryInstant token body = .error e ↔ BoundaryFault token body e := by
  rw [← boundary_eq_error_iff, boundaryInstant, map_eq_error_iff, bind_eq_error_iff]
  constructor
  · rintro (h | ⟨b, hb, he⟩)
    · exact h
    · obtain ⟨date, hdate, -⟩ := exists_date_of_boundary hb
      rw [hdate] at he
      cases he
  · exact .inl

theorem half_of_fault {token : String} {body : List Char} {e : Error}
    (h : BoundaryFault token body e) :
    half token body =
      ⟨[.rangeHalfRejected token (.ofList body) e], .error (.invalidFormat token)⟩ := by
  rw [half, boundaryInstant_eq_error_iff.2 h]
  rfl

theorem exists_half_of_faultless {token : String} {body : List Char}
    (h : ∀ e, ¬ BoundaryFault token body e) : ∃ i, half token body = pure i := by
  cases hbody : boundaryInstant token body with
  | error e => exact absurd (boundaryInstant_eq_error_iff.1 hbody) (h e)
  | ok i =>
      rw [half, hbody]
      exact ⟨i, rfl⟩

theorem read_of_unenclosed {token : String}
    (h : ∀ body, ¬ Bracket.Encloses token.toList body) :
    read token = ⟨[.readingRangeToken token], .error (.invalidFormat token)⟩ := by
  rw [read, Bracket.inner?_eq_none_iff.2 h]
  rfl

theorem read_of_parts {token : String} {body : List Char} {pieces : List (List Char)}
    (hbody : Bracket.Encloses token.toList body) (hpieces : Text.Pieces body pieces)
    (hlength : pieces.length ≠ 2) :
    read token = ⟨[.readingRangeToken token, .rangeNotInHalves token pieces.length],
      .error (.invalidFormat token)⟩ := by
  rw [read, Bracket.inner?_eq_some_iff_encloses.2 hbody]
  dsimp only
  rw [Text.splitArrow_eq_iff.2 hpieces]
  split
  · exact absurd rfl hlength
  · rfl

theorem read_of_pair {token : String} {body start finish : List Char}
    (hbody : Bracket.Encloses token.toList body) (hpieces : Text.Pieces body [start, finish]) :
    read token = (do
      .log (.readingRangeToken token)
      let start ← half token start
      let finish ← half token finish
      return ⟨start, finish⟩) := by
  rw [read, Bracket.inner?_eq_some_iff_encloses.2 hbody]
  dsimp only
  rw [Text.splitArrow_eq_iff.2 hpieces]

/-- A diagnosis is logged, and is all that is. -/
theorem Diagnosis.exists_event {token : String} {line : Shown} (h : Diagnosis token line) :
    ∃ event : Event, event.shown = line ∧
      read token = ⟨[.readingRangeToken token, event], .error (.invalidFormat token)⟩ := by
  cases h with
  | parts hbody hpieces hlength => exact ⟨_, rfl, read_of_parts hbody hpieces hlength⟩
  | @start _ start _ e hbody hpieces hstart =>
      refine ⟨.rangeHalfRejected token (.ofList start) e, rfl, ?_⟩
      rw [read_of_pair hbody hpieces, half_of_fault hstart]
      rfl
  | @finish _ _ finish e hbody hpieces hstart hfinish =>
      obtain ⟨i, hi⟩ := exists_half_of_faultless hstart
      refine ⟨.rangeHalfRejected token (.ofList finish) e, rfl, ?_⟩
      rw [read_of_pair hbody hpieces, hi, half_of_fault hfinish]
      rfl

theorem Diagnosis.shown_eq {token : String} {line : Shown} (h : Diagnosis token line) :
    (read token).events.map Event.shown =
      [⟨.debug, "parsing date range token", [("token", token)]⟩, line] := by
  obtain ⟨event, rfl, hread⟩ := h.exists_event
  exact congrArg (·.events.map Event.shown) hread

theorem diagnosis_or_accepted {token : String} {body : List Char}
    (hbody : Bracket.Encloses token.toList body) :
    (∃ line, Diagnosis token line) ∨
      ∃ range, read token = ⟨[.readingRangeToken token], .ok range⟩ := by
  have hpieces : Text.Pieces body (Text.splitArrow body) := Text.splitArrow_eq_iff.1 rfl
  generalize Text.splitArrow body = pieces at hpieces
  by_cases hlength : pieces.length = 2
  · obtain ⟨start, finish, rfl⟩ := List.length_eq_two.1 hlength
    by_cases hstart : ∃ e, BoundaryFault token start e
    · obtain ⟨e, he⟩ := hstart
      exact .inl ⟨_, .start hbody hpieces he⟩
    · rw [not_exists] at hstart
      by_cases hfinish : ∃ e, BoundaryFault token finish e
      · obtain ⟨e, he⟩ := hfinish
        exact .inl ⟨_, .finish hbody hpieces hstart he⟩
      · obtain ⟨i, hi⟩ := exists_half_of_faultless hstart
        obtain ⟨j, hj⟩ := exists_half_of_faultless (not_exists.1 hfinish)
        refine .inr ⟨⟨i, j⟩, ?_⟩
        rw [read_of_pair hbody hpieces, hi, hj]
        rfl
  · exact .inl ⟨_, .parts hbody hpieces hlength⟩

/-- A refused token that one pair of brackets encloses has one line after the opening one, and it
shows the one diagnosis of the token. No other token has a line after the opening one. -/
theorem range_read_diagnosed (token : String) :
    let opening : Shown := ⟨.debug, "parsing date range token", [("token", token)]⟩
    let lines := (read token).events.map Event.shown
    (∀ line, lines = [opening, line] ↔ Diagnosis token line) ∧
      match (read token).outcome with
      | .ok _ => lines = [opening]
      | .error _ =>
        ((∃ body, Bracket.Encloses token.toList body) → ∃ line, lines = [opening, line]) ∧
          ((∀ body, ¬ Bracket.Encloses token.toList body) → lines = [opening]) := by
  intro opening lines
  have honly : lines = [opening] → ∀ line, lines = [opening, line] ↔ Diagnosis token line := by
    intro halone line
    refine ⟨fun hline => ?_, Diagnosis.shown_eq⟩
    rw [halone] at hline
    cases hline
  by_cases hbody : ∃ body, Bracket.Encloses token.toList body
  · rcases diagnosis_or_accepted hbody.choose_spec with ⟨line, hline⟩ | ⟨range, hread⟩
    · have hlines : lines = [opening, line] := hline.shown_eq
      obtain ⟨event, -, hread⟩ := hline.exists_event
      refine ⟨fun other => ⟨fun hother => ?_, Diagnosis.shown_eq⟩, ?_⟩
      · rw [hlines, List.cons.injEq, List.cons.injEq] at hother
        exact hother.2.1 ▸ hline
      · rw [hread]
        exact ⟨fun _ => ⟨line, hlines⟩, fun hnone => absurd hbody (not_exists.2 hnone)⟩
    · have hlines : lines = [opening] := congrArg (·.events.map Event.shown) hread
      refine ⟨honly hlines, ?_⟩
      rw [hread]
      exact hlines
  · have hread := read_of_unenclosed (not_exists.1 hbody)
    have hlines : lines = [opening] := congrArg (·.events.map Event.shown) hread
    refine ⟨honly hlines, ?_⟩
    rw [hread]
    exact ⟨fun hsome => absurd hsome hbody, fun _ => hlines⟩

/-- Two arrows make three pieces, and the last of them is empty. -/
theorem range_read_diagnosed_three :
    let token := "[START-MAY-2024<->END-MAY-2024<->]"
    let line : Shown :=
      ⟨.debug, "range token does not have two halves", [("token", token), ("parts", "3")]⟩
    (read token).events.map Event.shown =
        [⟨.debug, "parsing date range token", [("token", token)]⟩, line] ∧
      Diagnosis token line := by
  intro token line
  have hlines : (read token).events.map Event.shown =
      [⟨.debug, "parsing date range token", [("token", token)]⟩, line] := by
    decide +kernel
  exact ⟨hlines, ((range_read_diagnosed token).1 line).1 hlines⟩

/-- Of two bad halves the first is named, with what is wrong with it first. -/
example : (read "[END-MAI-0<->START-MAI-2024]").events.map Event.shown =
    [⟨.debug, "parsing date range token", [("token", "[END-MAI-0<->START-MAI-2024]")]⟩,
      ⟨.debug, "range half rejected", [("token", "[END-MAI-0<->START-MAI-2024]"),
        ("half", "END-MAI-0"), ("error", "MAI : UNRECOGNISED - Invalid month")]⟩] := by
  decide +kernel

end BracketToken.DateRange
