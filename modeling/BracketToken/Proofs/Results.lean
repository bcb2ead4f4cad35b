import BracketToken.Proofs.Range
import BracketToken.Proofs.Spelling
import Mathlib.Data.List.Forall2

/-!
What tokens come to, as texts.

Main statement: `canonical_of_result`, the instants that date tokens and range tokens stand for are
written in one shape and read back from it, and their texts stand in the order of time.
-/

namespace BracketToken

open Calendar DateToken

/-- The instants that tokens stand for. -/
inductive IsResult : Instant → Prop
  | date {token : String} {now i : Instant} :
      (evaluate token now).outcome = .ok i → IsResult i
  | start {token : String} {range : DateRange} :
      (DateRange.read token).outcome = .ok range → IsResult range.start
  | finish {token : String} {range : DateRange} :
      (DateRange.read token).outcome = .ok range → IsResult range.finish

theorem DateRange.startsPlainDay_of_read {token : String} {range : DateRange}
    (h : (DateRange.read token).outcome = .ok range) :
    range.start.StartsPlainDay ∧ range.finish.StartsPlainDay := by
  obtain ⟨start, finish, hhalves⟩ := DateRange.exists_halves_of_read h
  obtain ⟨range', hread, hends⟩ := hhalves.exists_range
  rw [h, Except.ok.injEq] at hread
  rw [hread]
  obtain ⟨hstart, hfinish⟩ := hends range'.start
  exact ⟨startsPlainDay_of_evaluate hstart, startsPlainDay_of_evaluate hfinish⟩

theorem IsResult.startsPlainDay {i : Instant} (h : IsResult i) : i.StartsPlainDay := by
  cases h with
  | date h => exact startsPlainDay_of_evaluate h
  | start h => exact (DateRange.startsPlainDay_of_read h).1
  | finish h => exact (DateRange.startsPlainDay_of_read h).2

/-- How the start of a day is written, with `d` in the place of any digit. -/
def dayShape : List Char := "dddd-dd-dd 00:00:00Z".toList

def Fits (mark c : Char) : Prop := if mark = 'd' then c.isDigit = true else c = mark

instance (mark c : Char) : Decidable (Fits mark c) :=
  inferInstanceAs (Decidable (if mark = 'd' then c.isDigit = true else c = mark))

structure IsDayText (text : String) : Prop where
  length : text.length = 20
  ascii : ∀ c ∈ text.toList, c.toNat < 128
  shape : List.Forall₂ Fits dayShape text.toList

theorem forall₂_fits_digits {text : List Char} (h : ∀ c ∈ text, c.isDigit = true) :
    List.Forall₂ Fits (List.replicate text.length 'd') text := by
  induction text with
  | nil => exact .nil
  | cons c text ih =>
      obtain ⟨hc, htext⟩ := List.forall_mem_cons.1 h
      exact .cons hc (ih htext)

theorem toNat_lt_of_fits {marks text : List Char} (h : List.Forall₂ Fits marks text)
    (hmarks : ∀ mark ∈ marks, mark.toNat < 128) : ∀ c ∈ text, c.toNat < 128 := by
  induction h with
  | nil => exact fun c hc => nomatch hc
  | @cons mark c marks text hfits _ ih =>
      obtain ⟨hmark, hmarks⟩ := List.forall_mem_cons.1 hmarks
      refine List.forall_mem_cons.2 ⟨?_, ih hmarks⟩
      unfold Fits at hfits
      split at hfits
      · have := Numeral.toNat_mem_of_isDigit hfits
        omega
      · rw [hfits]
        exact hmark

theorem forall₂_fits_chars {d : Date} (h : 0 ≤ d.year ∧ d.year ≤ 9999) :
    List.Forall₂ Fits "dddd-dd-dd".toList d.chars := by
  have hyear := forall₂_fits_digits (Numeral.isDigits_padded 4 d.year.toNat).2
  have hmonth := forall₂_fits_digits (Numeral.isDigits_padded 2 d.month).2
  have hday := forall₂_fits_digits (Numeral.isDigits_padded 2 d.day).2
  rw [length_plainYear h] at hyear
  rw [d.lengths.1] at hmonth
  rw [d.lengths.2] at hday
  rw [Date.chars_eq h]
  exact List.rel_append hyear (.cons rfl (List.rel_append hmonth (.cons rfl hday)))

theorem Calendar.Instant.StartsPlainDay.isDayText {i : Instant} (h : i.StartsPlainDay) :
    IsDayText i.canonical := by
  have htail : List.Forall₂ Fits " 00:00:00Z".toList " 00:00:00Z".toList :=
    List.forall₂_same.2 (Text.forall_mem_of_all (by decide))
  have hshape : List.Forall₂ Fits dayShape i.canonical.toList := by
    rw [Instant.canonical, String.toList_ofList, h.chars_eq]
    exact List.rel_append (forall₂_fits_chars h.year_mem) htail
  refine ⟨?_, toNat_lt_of_fits hshape (Text.forall_mem_of_all (by decide)), hshape⟩
  rw [← String.length_toList, ← hshape.length_eq]
  rfl

theorem Calendar.Instant.StartsPlainDay.readInstant_canonical {i : Instant} (h : i.StartsPlainDay) :
    readInstant i.canonical = .ok i := by
  have hmidnight : TimeOfDay.midnight.wholeSecond = .midnight := rfl
  have hread := i.ofChars?_chars
  rw [Instant.wholeSecond, h.time, hmidnight, ← h.time] at hread
  rw [readInstant, Instant.canonical, String.toList_ofList, hread]

theorem canonical_of_result {i : Instant} (h : IsResult i) :
    IsDayText i.canonical ∧ readInstant i.canonical = .ok i ∧
      ∀ j, IsResult j → (i.canonical < j.canonical ↔ i < j) := by
  have hi := h.startsPlainDay
  refine ⟨hi.isDayText, hi.readInstant_canonical, ?_⟩
  intro j hj
  exact hi.canonical_lt_canonical_iff hj.startsPlainDay

/-- The first and the last day that can be written, the one reached from a leap second. -/
theorem canonical_first_last :
    let first := Date.midnight ⟨0, 1, 1, by decide, by decide, by decide⟩
    let last := Date.midnight ⟨9999, 12, 31, by decide, by decide, by decide⟩
    (IsResult first ∧ IsResult last) ∧ IsDayText first.canonical ∧
      readInstant first.canonical = .ok first ∧ (first.canonical < last.canonical ↔ first < last) := by
  intro first last
  let now : Instant := ⟨⟨2024, 12, 31, by decide, by decide, by decide⟩,
    ⟨23, 59, 59, 1999999999, by decide, by decide, by decide, by decide, by decide⟩⟩
  have hevaluate : (evaluate "[TOMORROW-2025YEAR]" now).outcome = .ok first := by decide +kernel
  have hread : (DateRange.read "[START-may-1<->END-DECEMBER-9999]").outcome =
      .ok ⟨Date.midnight ⟨1, 5, 1, by decide, by decide, by decide⟩, last⟩ := by decide +kernel
  have hfirst : IsResult first := .date hevaluate
  have hlast : IsResult last := .finish hread
  obtain ⟨htext, hback, horder⟩ := canonical_of_result hfirst
  exact ⟨⟨hfirst, hlast⟩, htext, hback, horder last hlast⟩

end BracketToken
