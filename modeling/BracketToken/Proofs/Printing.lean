import BracketToken.Proofs.DateFault
import BracketToken.Proofs.Decimal

/-!
Relative trees as text.

Adjustments show themselves as clauses, in one of the many ways of writing them: without zeros in
front and with a plus before a zero. So what is printed is read back, and reading and printing bring
clauses into that form. The least word alone cannot come back, because a clause gives its number
before its sign counts. Main statement: `relative_round_trip`.
-/

namespace BracketToken.DateToken

open Numeral

/-- A relative tree as text, its adjustments as messages and logs show them. -/
def printed (anchor : Anchor) (as : List Adjustment) : List Char :=
  anchor.keyword.toList ++ as.flatMap (·.text.toList)

namespace Clause

/-- The clause that an adjustment shows itself as. -/
def written (p : Int × CalendarUnit) : Clause := ⟨p.1 < 0, decimal p.1.natAbs, p.2⟩

/-- The clause without zeros in front, and with a plus if nothing else is left. -/
def normal (c : Clause) : Clause :=
  ⟨c.minus && value c.digits ≠ 0, shortest c.digits, c.unit⟩

theorem isDigits_written (p : Int × CalendarUnit) : IsDigits (written p).digits :=
  ⟨Nat.toDigits_ne_nil, fun _ hx => isDigit_of_mem_decimal hx⟩

theorem parts_written (p : Int × CalendarUnit) : (written p).parts = p := by
  refine Prod.ext ?_ rfl
  rw [parts, amount, written, value_decimal]
  split
  · next hminus =>
      have hneg : p.1 < 0 := of_decide_eq_true hminus
      dsimp only
      omega
  · next hplus =>
      have hpos : ¬ p.1 < 0 := fun hneg => hplus (decide_eq_true hneg)
      dsimp only
      omega

theorem written_legal {p : Int × CalendarUnit} (h : p.1.natAbs ≤ 9223372036854775807) :
    (written p).Legal := by
  refine ⟨isDigits_written p, ?_⟩
  rw [written, value_decimal]
  exact h

/-- Writing what was read leaves the normal form. -/
theorem Legal.written_parts {c : Clause} (h : c.Legal) : written c.parts = c.normal := by
  obtain ⟨minus, digits, unit⟩ := c
  have hdigits : decimal (value digits) = shortest digits := decimal_value h.digits.2
  cases minus with
  | false => simp [written, parts, normal, amount, hdigits]
  | true => simp [written, parts, normal, amount, hdigits, Nat.pos_iff_ne_zero]

theorem Legal.normal {c : Clause} (h : c.Legal) : c.normal.Legal := by
  have hle := h.value_le
  rw [← h.written_parts]
  refine written_legal ?_
  rw [parts, amount]
  split <;> omega

end Clause

namespace Adjustment

theorem chars_eq_written (a : Adjustment) : a.chars = (Clause.written a.parts).chars := by
  have hsign : (Clause.written a.parts).sign = if a.amount.toInt < 0 then '-' else '+' :=
    if_congr decide_eq_true_iff rfl rfl
  rw [Clause.chars, hsign, chars, signed]
  rfl

theorem written_legal {a : Adjustment} (h : a.amount ≠ Int64.minValue) :
    (Clause.written a.parts).Legal := by
  have hlo := a.amount.le_toInt
  have hhi := a.amount.toInt_lt
  have hne : a.amount.toInt ≠ -9223372036854775808 := fun hmin => h (Int64.toInt_inj.1 hmin)
  refine Clause.written_legal ?_
  rw [parts]
  omega

end Adjustment

theorem printed_eq (anchor : Anchor) (as : List Adjustment) :
    printed anchor as =
      (Phrase.relative anchor ((as.map Adjustment.parts).map Clause.written)).body := by
  rw [printed, Phrase.body, List.map_map, List.flatMap_map]
  congr 2
  funext a
  rw [Adjustment.text, String.toList_ofList, a.chars_eq_written]
  rfl

theorem ofBody_printed (token : String) (anchor : Anchor) {as : List Adjustment}
    (h : ∀ a ∈ as, a.amount ≠ Int64.minValue) :
    (ofBody token (printed anchor as)).outcome = .ok (.relative anchor as) := by
  rw [printed_eq]
  refine Phrase.Legal.ofBody_eq token ?_ ⟨rfl, ?_⟩
  · intro c hc
    rw [List.map_map] at hc
    obtain ⟨a, ha, rfl⟩ := List.mem_map.1 hc
    exact Adjustment.written_legal (h a ha)
  · rw [List.map_map (g := Clause.parts)]
    exact (List.map_id'' Clause.parts_written _).symm

/-- The first least word stops the reader. -/
theorem firstMisfit_of_find? (token : String) {as : List Adjustment} {a : Adjustment}
    (h : as.find? (·.amount = Int64.minValue) = some a) :
    FirstMisfit token (((as.map Adjustment.parts).map Clause.written).flatMap Clause.chars)
      (.outOfRange (.amount "9223372036854775808".toList a.unit)) := by
  induction as with
  | nil => cases h
  | cons b as ih =>
      have hstops := stops_flatMap ((as.map Adjustment.parts).map Clause.written)
      rw [List.map_cons, List.map_cons, List.flatMap_cons]
      by_cases hb : b.amount = Int64.minValue
      · rw [List.find?_cons_of_pos (by simpa using hb), Option.some.injEq] at h
        obtain rfl := h
        -- The clause is well formed, and its digits exceed what a word holds by one.
        have hdigits : (Clause.written b.parts).digits = "9223372036854775808".toList := by
          change decimal b.amount.toInt.natAbs = _
          rw [hb]
          decide
        have hopens := Clause.opens (Clause.isDigits_written b.parts) hstops
        rw [hdigits] at hopens
        exact .here (.amount hopens (by decide))
      · rw [List.find?_cons_of_neg (by simpa using hb)] at h
        exact .later (Adjustment.written_legal hb) hstops (ih h)

theorem ofBody_printed_of_find? (token : String) (anchor : Anchor) {as : List Adjustment}
    {a : Adjustment} (h : as.find? (·.amount = Int64.minValue) = some a) :
    (ofBody token (printed anchor as)).outcome =
      .error (.outOfRange (.amount "9223372036854775808".toList a.unit)) := by
  have hclauses := clauses_eq_error_iff.2 (firstMisfit_of_find? token h)
  rw [printed_eq, ofBody_outcome, Phrase.body, Anchor.split?_eq_some_iff.2 rfl]
  dsimp only
  rw [hclauses]
  rfl

/-- A relative tree comes from clauses, and is printed as their normal forms. -/
theorem exists_normal_of_ofBody {token : String} {body : List Char} {anchor : Anchor}
    {as : List Adjustment} (h : (ofBody token body).outcome = .ok (.relative anchor as)) :
    ∃ cs : List Clause, (∀ c ∈ cs, c.Legal) ∧
      body = anchor.keyword.toList ++ cs.flatMap Clause.chars ∧
      printed anchor as = anchor.keyword.toList ++ (cs.map Clause.normal).flatMap Clause.chars ∧
      as.map Adjustment.parts = (cs.map Clause.normal).map Clause.parts := by
  obtain ⟨p, hp, rfl, hd⟩ := exists_phrase_of_ofBody h
  cases p with
  | boundary edge month name year => exact hd.elim
  | relative anchor' cs =>
      obtain ⟨rfl, hparts⟩ := hd
      have hnormal : (as.map Adjustment.parts).map Clause.written = cs.map Clause.normal := by
        rw [hparts, List.map_map]
        exact List.map_congr_left fun c hc => (hp c hc).written_parts
      refine ⟨cs, hp, rfl, ?_, ?_⟩
      · rw [printed_eq, hnormal]
        rfl
      · rw [← hnormal, List.map_map (g := Clause.parts)]
        exact (List.map_id'' Clause.parts_written _).symm

/-- What is printed is read back, but for the least word; and what is read is printed in its normal
form, which is read in the same way. -/
theorem relative_round_trip (token : String) (anchor : Anchor) :
    (∀ as, (∀ a ∈ as, a.amount ≠ Int64.minValue) →
        (ofBody token (printed anchor as)).outcome = .ok (.relative anchor as)) ∧
      (∀ as a, as.find? (·.amount = Int64.minValue) = some a →
        (ofBody token (printed anchor as)).outcome =
          .error (.outOfRange (.amount "9223372036854775808".toList a.unit))) ∧
      ∀ body as, (ofBody token body).outcome = .ok (.relative anchor as) →
        (ofBody token (printed anchor as)).outcome = .ok (.relative anchor as) ∧
          ∃ cs : List Clause, (∀ c ∈ cs, c.Legal) ∧
            body = anchor.keyword.toList ++ cs.flatMap Clause.chars ∧
            printed anchor as =
              anchor.keyword.toList ++ (cs.map Clause.normal).flatMap Clause.chars := by
  refine ⟨fun as => ofBody_printed token anchor, fun as a => ofBody_printed_of_find? token anchor, ?_⟩
  intro body as h
  obtain ⟨cs, hcs, hbody, hprinted, hparts⟩ := exists_normal_of_ofBody h
  refine ⟨?_, cs, hcs, hbody, hprinted⟩
  rw [hprinted]
  refine Phrase.Legal.ofBody_eq (p := .relative anchor (cs.map Clause.normal)) token ?_ ⟨rfl, hparts⟩
  intro c hc
  obtain ⟨d, hd, rfl⟩ := List.mem_map.1 hc
  exact (hcs d hd).normal

/-- Zeros in front go, a zero has a plus, and of two least words the first is blamed. -/
theorem relative_round_trip_leading_zeros :
    printed .yesterday [⟨0, .day⟩, ⟨-7, .year⟩] = "YESTERDAY+0DAY-7YEAR".toList ∧
      (ofBody "" (printed .yesterday [⟨0, .day⟩, ⟨-7, .year⟩])).outcome =
        .ok (.relative .yesterday [⟨0, .day⟩, ⟨-7, .year⟩]) ∧
      (ofBody "" (printed .yesterday
        [⟨1, .day⟩, ⟨Int64.minValue, .month⟩, ⟨Int64.minValue, .year⟩])).outcome =
        .error (.outOfRange (.amount "9223372036854775808".toList .month)) ∧
      (ofBody "" "YESTERDAY-000DAY-007YEAR".toList).outcome =
        .ok (.relative .yesterday [⟨0, .day⟩, ⟨-7, .year⟩]) ∧
      ∃ cs : List Clause, (∀ c ∈ cs, c.Legal) ∧
        "YESTERDAY-000DAY-007YEAR".toList = "YESTERDAY".toList ++ cs.flatMap Clause.chars ∧
        "YESTERDAY+0DAY-7YEAR".toList =
          "YESTERDAY".toList ++ (cs.map Clause.normal).flatMap Clause.chars := by
  obtain ⟨hforth, hleast, hback⟩ := relative_round_trip "" .yesterday
  have hread : (ofBody "" "YESTERDAY-000DAY-007YEAR".toList).outcome =
      .ok (.relative .yesterday [⟨0, .day⟩, ⟨-7, .year⟩]) := by
    decide +kernel
  refine ⟨by decide, hforth _ (by decide), hleast _ ⟨Int64.minValue, .month⟩ (by decide), hread, ?_⟩
  exact (hback _ _ hread).2

end BracketToken.DateToken
