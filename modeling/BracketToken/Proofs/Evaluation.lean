import BracketToken.Proofs.Canonical
import BracketToken.Proofs.DateGrammar
import BracketToken.Proofs.Resolution

/-!
Evaluating a token is reading it and then resolving the tree. A tree of the boundary grammar always
resolves, and to the same instant on every day.
-/

namespace BracketToken

namespace Calendar

theorem monthEnds?_eq {year : Int} {month : Nat} (hyear : minYear ≤ year ∧ year ≤ maxYear)
    (hmonth : 1 ≤ month ∧ month ≤ 12) :
    monthEnds? year month =
      some (⟨year, month, 1, hyear, hmonth, by have := monthLength_mem year month; omega⟩,
        ⟨year, month, monthLength year month, hyear, hmonth,
          by have := monthLength_mem year month; omega⟩) := by
  have hlength := monthLength_mem year month
  rw [monthEnds?, Date.of?, dif_pos ⟨hyear, hmonth, by omega⟩, Date.of?,
    dif_pos ⟨hyear, hmonth, by omega⟩]
  rfl

end Calendar

namespace DateToken

open Calendar Numeral

theorem Names.month_le {name : List Char} {month : Nat} (h : Names name month) : month ≤ 12 := by
  obtain ⟨-, english, henglish, -⟩ := h
  obtain ⟨hlt, -⟩ := List.getElem?_eq_some_iff.1 henglish
  have hcount : englishMonths.length = 12 := rfl
  omega

theorem MonthBoundary.exists_date {b : MonthBoundary} (hyear : 1 ≤ b.year ∧ b.year ≤ 9999)
    (hmonth : 1 ≤ b.month ∧ b.month ≤ 12) : ∃ date, b.date = .ok date ∧ date.year = b.year := by
  have hcalendar : minYear ≤ b.year ∧ b.year ≤ maxYear := by
    unfold minYear maxYear
    omega
  have hends := monthEnds?_eq hcalendar hmonth
  rw [date, hends]
  cases b.edge with
  | first => exact ⟨_, rfl, rfl⟩
  | last => exact ⟨_, rfl, rfl⟩

/-- What is read as a boundary has a date. -/
theorem exists_date_of_boundary {token : String} {body : List Char} {b : MonthBoundary}
    (h : boundary token body = .ok b) :
    ∃ date, b.date = .ok date ∧ 0 ≤ date.year ∧ date.year ≤ 9999 := by
  obtain ⟨name, year, -, hname, -, hmem, hyear⟩ := exists_parts_of_boundary h
  obtain ⟨date, hdate, hdyear⟩ :=
    MonthBoundary.exists_date (b := b) (by omega) ⟨hname.1, hname.month_le⟩
  exact ⟨date, hdate, by omega, by omega⟩

/-- Only errors show the token. -/
theorem boundary_eq_ok_of {token other : String} {body : List Char} {b : MonthBoundary}
    (h : boundary token body = .ok b) : boundary other body = .ok b := by
  obtain ⟨name, year, rfl, hname, hdigits, hmem, hyear⟩ := exists_parts_of_boundary h
  obtain ⟨edge, month, number⟩ := b
  dsimp only at hname hyear
  rw [hyear]
  exact boundary_eq other hname hdigits hmem

theorem evaluate_outcome (token : String) (now : Instant) :
    (evaluate token now).outcome =
      (read token).outcome.bind fun tree => (resolve tree now.date).outcome := by
  simp only [evaluate, Traced.outcome_bind, Traced.outcome_log, Traced.outcome_pure]
  cases (read token).outcome with
  | error e => rfl
  | ok tree =>
      simp only [Except.bind]
      cases (resolve tree now.date).outcome with
      | error e => rfl
      | ok i => rfl

/-- The steps that a relative token takes, one after another. -/
theorem resolve_relative_outcome (anchor : Anchor) (adjustments : List Adjustment) (today : Date) :
    (resolve (.relative anchor adjustments) today).outcome =
      (((anchor.date today).bind fun start => (adjust start adjustments).outcome).bind printable).bind
        fun date => .ok date.midnight := by
  simp only [resolve, dateOf, Traced.outcome_bind, Traced.outcome_ofExcept, Traced.outcome_pure]
  cases anchor.date today with
  | error e => rfl
  | ok start => rfl

theorem resolve_monthBoundary_outcome (b : MonthBoundary) (today : Date) :
    (resolve (.monthBoundary b) today).outcome = b.date.map Date.midnight := by
  simp only [resolve, dateOf, Traced.outcome_bind, Traced.outcome_ofExcept, Traced.outcome_pure]
  cases b.date with
  | error e => rfl
  | ok date => rfl

/-- A token is in the boundary grammar when its body is. -/
theorem read_eq_boundary_iff {token : String} {body : List Char} {b : MonthBoundary}
    (h : Bracket.inner? token.toList = some body) :
    (read token).outcome = .ok (.monthBoundary b) ↔ boundary token body = .ok b := by
  rw [read_outcome, h]
  dsimp only
  cases hsplit : Anchor.split? body with
  | none => cases boundary token body <;> simp [Except.map]
  | some start =>
      obtain ⟨anchor, rest⟩ := start
      constructor
      · intro hread
        dsimp only at hread
        cases hrest : clauses token rest with
        | error e =>
            rw [hrest] at hread
            cases hread
        | ok adjustments =>
            rw [hrest] at hread
            cases hread
      · intro hb
        obtain ⟨name, year, rfl, -⟩ := exists_parts_of_boundary hb
        rw [List.append_assoc, Anchor.split?_edge] at hsplit
        cases hsplit

theorem exists_body_of_read_boundary {token : String} {b : MonthBoundary}
    (h : (read token).outcome = .ok (.monthBoundary b)) :
    ∃ body, Bracket.inner? token.toList = some body ∧ boundary token body = .ok b := by
  cases hinner : Bracket.inner? token.toList with
  | none =>
      rw [read_outcome, hinner] at h
      cases h
  | some body => exact ⟨body, rfl, (read_eq_boundary_iff hinner).1 h⟩

theorem startsPlainDay_of_boundary {token : String} {body : List Char} {b : MonthBoundary}
    {i : Instant} (h : boundary token body = .ok b) (hi : b.date.map Date.midnight = .ok i) :
    i.StartsPlainDay := by
  obtain ⟨date, hdate, hyear⟩ := exists_date_of_boundary h
  rw [hdate] at hi
  cases hi
  exact ⟨rfl, hyear⟩

theorem startsPlainDay_of_relative {anchor : Anchor} {adjustments : List Adjustment} {today : Date}
    {i : Instant} (h : (resolve (.relative anchor adjustments) today).outcome = .ok i) :
    i.StartsPlainDay := by
  rw [resolve_relative_outcome] at h
  obtain ⟨date, hdate, hi⟩ := bind_eq_ok_iff.1 h
  obtain ⟨last, -, hlast⟩ := bind_eq_ok_iff.1 hdate
  rw [printable_eq] at hlast
  split at hlast
  · next hyear =>
      cases hlast
      cases hi
      exact ⟨rfl, hyear⟩
  · cases hlast

theorem startsPlainDay_of_evaluate {token : String} {now i : Instant}
    (h : (evaluate token now).outcome = .ok i) : i.StartsPlainDay := by
  rw [evaluate_outcome] at h
  obtain ⟨tree, htree, hi⟩ := bind_eq_ok_iff.1 h
  cases tree with
  | relative anchor adjustments => exact startsPlainDay_of_relative hi
  | monthBoundary b =>
      obtain ⟨body, -, hb⟩ := exists_body_of_read_boundary htree
      rw [resolve_monthBoundary_outcome] at hi
      exact startsPlainDay_of_boundary hb hi

end DateToken

end BracketToken
