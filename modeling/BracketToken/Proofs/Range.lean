import BracketToken.DateRange
import BracketToken.Proofs.Arrow
import BracketToken.Proofs.Evaluation
import Mathlib.Data.String.Basic

/-!
Range tokens as pairs of boundary tokens.

Main statement: `range_read_halves`, a range token is read exactly when it is two tokens of the
boundary grammar with their inner brackets left out and an arrow between them; its ends are what
these two tokens stand for, whatever the clock shows. Any other token is malformed as a whole.
-/

namespace BracketToken

namespace DateToken

open Calendar

theorem Phrase.Legal.not_mem_body {q : Phrase} (h : q.Legal) : '<' ∉ q.body := by
  intro hmem
  refine h.forall_body (p := (· ≠ '<')) ?_ ?_ (by decide) (by decide) '<' hmem rfl
  · exact fun x hx => Text.ne_of_test hx (by decide)
  · exact fun x hx => Text.ne_of_test hx (by decide)

/-- The boundary grammar as phrases of one kind. -/
theorem exists_phrase_of_boundary {token : String} {body : List Char} {b : MonthBoundary}
    (h : boundary token body = .ok b) : ∃ q : Phrase, q.Legal ∧ q.body = body := by
  obtain ⟨name, year, hbody, hname, hdigits, hmem, -⟩ := exists_parts_of_boundary h
  exact ⟨.boundary b.edge b.month name year, ⟨hname, hdigits, hmem⟩, hbody.symm⟩

def bracketed (body : String) : String := "[" ++ body ++ "]"

theorem toList_bracketed (body : String) :
    (bracketed body).toList = '[' :: body.toList ++ [']'] := by
  simp [bracketed, String.toList_append]

theorem read_bracketed_iff (token : String) {body : String} {b : MonthBoundary} :
    (read (bracketed body)).outcome = .ok (.monthBoundary b) ↔ boundary token body.toList = .ok b := by
  constructor
  · intro h
    obtain ⟨inner, hinner, hb⟩ := exists_body_of_read_boundary h
    have htext := (Bracket.inner?_eq_some_iff.1 hinner).1
    rw [toList_bracketed, List.append_left_inj, List.cons.injEq] at htext
    rw [htext.2]
    exact boundary_eq_ok_of hb
  · intro h
    obtain ⟨q, hq, hbody⟩ := exists_phrase_of_boundary h
    have hinner : Bracket.inner? (bracketed body).toList = some body.toList := by
      rw [Bracket.inner?_eq_some_iff, toList_bracketed, ← hbody]
      exact ⟨rfl, hq.body_chars⟩
    exact (read_eq_boundary_iff hinner).2 (boundary_eq_ok_of h)

end DateToken

namespace DateRange

open Calendar DateToken

theorem boundaryInstant_eq_ok_iff {token : String} {body : List Char} {i : Instant} :
    boundaryInstant token body = .ok i ↔
      ∃ b, boundary token body = .ok b ∧ b.date.map Date.midnight = .ok i := by
  rw [boundaryInstant]
  cases boundary token body with
  | error e => simp [Except.bind, Except.map]
  | ok b => simp [Except.bind]

theorem half_outcome (token : String) (body : List Char) :
    (half token body).outcome = match boundaryInstant token body with
      | .ok i => .ok i
      | .error _ => .error (.invalidFormat token) := by
  rw [half]
  cases boundaryInstant token body with
  | error e => rfl
  | ok i => rfl

theorem half_eq_ok_iff {token : String} {body : List Char} {i : Instant} :
    (half token body).outcome = .ok i ↔ boundaryInstant token body = .ok i := by
  rw [half_outcome]
  cases boundaryInstant token body <;> simp

theorem eq_invalidFormat_of_half {token : String} {body : List Char} {e : DateToken.Error}
    (h : (half token body).outcome = .error e) : e = .invalidFormat token := by
  rw [half_outcome] at h
  cases hb : boundaryInstant token body with
  | error e' =>
      rw [hb] at h
      cases h
      rfl
  | ok i =>
      rw [hb] at h
      cases h

/-- The outcome of reading, without the events on the way. -/
theorem read_outcome (token : String) :
    (read token).outcome = match (Bracket.inner? token.toList).map Text.splitArrow with
      | some [start, finish] => (half token start).outcome.bind fun s =>
          (half token finish).outcome.bind fun f => .ok ⟨s, f⟩
      | _ => .error (.invalidFormat token) := by
  simp only [read, Traced.outcome_bind, Traced.outcome_log, Except.bind]
  cases Bracket.inner? token.toList with
  | none => rfl
  | some body =>
      rw [Option.map_some]
      dsimp only
      generalize Text.splitArrow body = parts
      split
      · simp only [Traced.outcome_bind, Traced.outcome_pure]
        rfl
      · next hparts =>
          simp only [Traced.outcome_bind, Traced.outcome_log, Traced.outcome_fail, Except.bind]
          split
          · next heq => exact absurd (Option.some.inj heq) (hparts _ _)
          · rfl

/-- Two tokens of the boundary grammar, put into one pair of brackets with an arrow between them. -/
structure Halves (token start finish : String) : Prop where
  text : token = "[" ++ start ++ "<->" ++ finish ++ "]"
  start : ∃ b, (DateToken.read (bracketed start)).outcome = .ok (.monthBoundary b)
  finish : ∃ b, (DateToken.read (bracketed finish)).outcome = .ok (.monthBoundary b)

theorem Halves.toList_eq {token start finish : String} (h : Halves token start finish) :
    token.toList = '[' :: (start.toList ++ Text.arrow ++ finish.toList) ++ [']'] := by
  simp [h.text, String.toList_append, Text.arrow]

theorem Halves.split {token start finish : String} (h : Halves token start finish) :
    (Bracket.inner? token.toList).map Text.splitArrow = some [start.toList, finish.toList] := by
  obtain ⟨b, hb⟩ := h.start
  obtain ⟨c, hc⟩ := h.finish
  obtain ⟨p, hp, hstart⟩ := exists_phrase_of_boundary ((read_bracketed_iff token).1 hb)
  obtain ⟨q, hq, hfinish⟩ := exists_phrase_of_boundary ((read_bracketed_iff token).1 hc)
  have hinner : Bracket.inner? token.toList =
      some (start.toList ++ Text.arrow ++ finish.toList) := by
    refine Bracket.inner?_eq_some_iff.2 ⟨h.toList_eq, ?_⟩
    intro x hx
    rw [List.mem_append, List.mem_append] at hx
    rcases hx with (hx | hx) | hx
    · exact hp.body_chars x (hstart ▸ hx)
    · exact Text.forall_mem_of_all (p := (Bracket.isBracket · = false)) (by decide) x hx
    · exact hq.body_chars x (hfinish ▸ hx)
  rw [hinner, Option.map_some, Text.splitArrow_pair (hstart ▸ hp.not_mem_body)
    (hfinish ▸ hq.not_mem_body)]

theorem exists_halves_of_read {token : String} {range : DateRange}
    (h : (read token).outcome = .ok range) : ∃ start finish, Halves token start finish := by
  rw [read_outcome] at h
  split at h
  · next start finish hsplit =>
      obtain ⟨body, hinner, hparts⟩ := Option.map_eq_some_iff.1 hsplit
      obtain ⟨s, hs, h⟩ := bind_eq_ok_iff.1 h
      obtain ⟨f, hf, -⟩ := bind_eq_ok_iff.1 h
      obtain ⟨b, hb, -⟩ := boundaryInstant_eq_ok_iff.1 (half_eq_ok_iff.1 hs)
      obtain ⟨c, hc, -⟩ := boundaryInstant_eq_ok_iff.1 (half_eq_ok_iff.1 hf)
      refine ⟨.ofList start, .ofList finish, ?_, ⟨b, ?_⟩, ⟨c, ?_⟩⟩
      · have htext := Text.intercalate_splitArrow body
        rw [hparts, List.intercalate_cons_cons, List.intercalate_singleton] at htext
        rw [← String.toList_inj, (Bracket.inner?_eq_some_iff.1 hinner).1, ← htext]
        simp [String.toList_append, Text.arrow]
      · rw [read_bracketed_iff token, String.toList_ofList]
        exact hb
      · rw [read_bracketed_iff token, String.toList_ofList]
        exact hc
  · cases h

theorem Halves.exists_range {token start finish : String} (h : Halves token start finish) :
    ∃ range, (read token).outcome = .ok range ∧ ∀ now,
      (evaluate (bracketed start) now).outcome = .ok range.start ∧
        (evaluate (bracketed finish) now).outcome = .ok range.finish := by
  obtain ⟨b, hb⟩ := h.start
  obtain ⟨c, hc⟩ := h.finish
  obtain ⟨d, hd, -⟩ := exists_date_of_boundary ((read_bracketed_iff token).1 hb)
  obtain ⟨e, he, -⟩ := exists_date_of_boundary ((read_bracketed_iff token).1 hc)
  refine ⟨⟨d.midnight, e.midnight⟩, ?_, fun now => ⟨?_, ?_⟩⟩
  · have hs : (half token start.toList).outcome = .ok d.midnight := by
      rw [half_eq_ok_iff, boundaryInstant_eq_ok_iff]
      exact ⟨b, (read_bracketed_iff token).1 hb, by rw [hd]; rfl⟩
    have hf : (half token finish.toList).outcome = .ok e.midnight := by
      rw [half_eq_ok_iff, boundaryInstant_eq_ok_iff]
      exact ⟨c, (read_bracketed_iff token).1 hc, by rw [he]; rfl⟩
    rw [read_outcome, h.split]
    dsimp only
    rw [hs, hf]
    rfl
  · rw [evaluate_outcome, hb]
    dsimp only [Except.bind]
    rw [resolve_monthBoundary_outcome, hd]
    rfl
  · rw [evaluate_outcome, hc]
    dsimp only [Except.bind]
    rw [resolve_monthBoundary_outcome, he]
    rfl

theorem eq_invalidFormat_of_read {token : String} {e : DateToken.Error}
    (h : (read token).outcome = .error e) : e = .invalidFormat token := by
  rw [read_outcome] at h
  split at h
  · next start finish _ =>
      cases hs : (half token start).outcome with
      | error e' =>
          rw [hs] at h
          cases h
          exact eq_invalidFormat_of_half hs
      | ok s =>
          cases hf : (half token finish).outcome with
          | error e' =>
              rw [hs, hf] at h
              cases h
              exact eq_invalidFormat_of_half hf
          | ok f =>
              rw [hs, hf] at h
              cases h
  · cases h
    rfl

/-- A range is read where the token has two halves, and its ends are then what the halves stand
for; what has no halves is malformed. -/
theorem range_read_halves (token : String) :
    match (read token).outcome with
    | .ok range => (∃ start finish, Halves token start finish) ∧
        ∀ start finish, Halves token start finish → ∀ now,
          (evaluate (bracketed start) now).outcome = .ok range.start ∧
            (evaluate (bracketed finish) now).outcome = .ok range.finish
    | .error e => (¬ ∃ start finish, Halves token start finish) ∧ e = .invalidFormat token := by
  cases hread : (read token).outcome with
  | ok range =>
      refine ⟨exists_halves_of_read hread, ?_⟩
      intro start finish h
      obtain ⟨range', hread', hends⟩ := h.exists_range
      rw [hread, Except.ok.injEq] at hread'
      rw [hread']
      exact hends
  | error e =>
      refine ⟨?_, eq_invalidFormat_of_read hread⟩
      rintro ⟨start, finish, h⟩
      obtain ⟨range, hread', -⟩ := h.exists_range
      rw [hread] at hread'
      cases hread'

/-- A range that ends before it starts, with small letters and a year with leading zeros. -/
theorem read_halves_reversed :
    let token := "[END-march-2025<->START-JANUARY-0020]"
    let range : DateRange := ⟨Date.midnight ⟨2025, 3, 31, by decide, by decide, by decide⟩,
      Date.midnight ⟨20, 1, 1, by decide, by decide, by decide⟩⟩
    (Halves token "END-march-2025" "START-JANUARY-0020" ∧ (read token).outcome = .ok range) ∧
      ∀ now, (evaluate (bracketed "END-march-2025") now).outcome = .ok range.start ∧
        (evaluate (bracketed "START-JANUARY-0020") now).outcome = .ok range.finish := by
  intro token range
  have hread : (read token).outcome = .ok range := by decide +kernel
  have hhalves : Halves token "END-march-2025" "START-JANUARY-0020" :=
    ⟨by decide, ⟨⟨.last, 3, 2025⟩, by decide +kernel⟩, ⟨⟨.first, 1, 20⟩, by decide +kernel⟩⟩
  have hends := range_read_halves token
  rw [hread] at hends
  exact ⟨⟨hhalves, hread⟩, hends.2 _ _ hhalves⟩

end DateRange

end BracketToken
