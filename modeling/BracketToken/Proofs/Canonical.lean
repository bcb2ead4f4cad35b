import BracketToken.Calendar.Canonical
import BracketToken.Proofs.Chronology
import BracketToken.Proofs.Decimal
import BracketToken.Proofs.Trim
import Mathlib.Data.String.Basic

/-!
The canonical text of dates and instants: where years have four digits the order of the texts is the
order of time.
-/

namespace BracketToken

namespace Text

theorem isBlank_of_isDigit {c : Char} (h : c.isDigit = true) : isBlank c = false := by
  have hmem := Numeral.toNat_mem_of_isDigit h
  exact isBlank_of_visible (by omega)

end Text

namespace Calendar

open Numeral Text

theorem hasPlainYear_eq_true_iff {year : Int} : hasPlainYear year = true ↔ 0 ≤ year ∧ year ≤ 9999 := by
  rw [hasPlainYear, Bool.and_eq_true, decide_eq_true_eq, decide_eq_true_eq]

theorem length_plainYear {year : Int} (h : 0 ≤ year ∧ year ≤ 9999) :
    (padded 4 year.toNat).length = 4 := length_padded (by decide) (by omega)

namespace Date

theorem chars_eq {d : Date} (h : 0 ≤ d.year ∧ d.year ≤ 9999) :
    d.chars = padded 4 d.year.toNat ++ '-' :: (padded 2 d.month ++ '-' :: padded 2 d.day) := by
  rw [chars, yearText, if_pos (hasPlainYear_eq_true_iff.2 h), List.append_assoc, List.cons_append]

theorem lengths (d : Date) : (padded 2 d.month).length = 2 ∧ (padded 2 d.day).length = 2 := by
  have hmonth := d.month_mem
  have hday := d.day_mem
  have hlength := monthLength_mem d.year d.month
  exact ⟨length_padded (by decide) (by omega), length_padded (by decide) (by omega)⟩

theorem length_chars {d : Date} (h : 0 ≤ d.year ∧ d.year ≤ 9999) : d.chars.length = 10 := by
  have hrest := d.lengths
  rw [chars_eq h]
  simp only [List.length_append, List.length_cons, length_plainYear h, hrest.1, hrest.2]

/-- The parts of a date have fixed widths, so its text is compared part by part. -/
theorem chars_lt_chars_iff {d e : Date} (hd : 0 ≤ d.year ∧ d.year ≤ 9999)
    (he : 0 ≤ e.year ∧ e.year ≤ 9999) : d.chars < e.chars ↔ d < e := by
  have hdmonth := d.month_mem
  have hemonth := e.month_mem
  have hdday := d.day_mem
  have heday := e.day_mem
  have hdlength := monthLength_mem d.year d.month
  have helength := monthLength_mem e.year e.month
  have hyears := (length_plainYear hd).trans (length_plainYear he).symm
  have hmonths := d.lengths.1.trans e.lengths.1.symm
  have hlt : d.year.toNat < e.year.toNat ↔ d.year < e.year := by omega
  have heq : d.year.toNat = e.year.toNat ↔ d.year = e.year := by omega
  rw [chars_eq hd, chars_eq he, append_lt_append_iff hyears, List.cons_lt_cons_self,
    append_lt_append_iff hmonths, List.cons_lt_cons_self, padded_inj, padded_inj,
    padded_lt_padded_iff (by decide) (by omega) (by omega),
    padded_lt_padded_iff (by decide) (by omega) (by omega),
    padded_lt_padded_iff (by decide) (by omega) (by omega), hlt, heq, lt_iff]

end Date

namespace Instant

/-- The first moment of a day whose year has four digits. -/
structure StartsPlainDay (i : Instant) : Prop where
  time : i.time = .midnight
  year_mem : 0 ≤ i.date.year ∧ i.date.year ≤ 9999

theorem StartsPlainDay.chars_eq {i : Instant} (h : i.StartsPlainDay) :
    i.chars = i.date.chars ++ " 00:00:00Z".toList := by
  have hmidnight : TimeOfDay.midnight.chars = "00:00:00".toList := by decide
  rw [chars, h.time, hmidnight, List.append_assoc]
  rfl

theorem StartsPlainDay.canonical_lt_canonical_iff {i j : Instant} (hi : i.StartsPlainDay)
    (hj : j.StartsPlainDay) : i.canonical < j.canonical ↔ i < j := by
  have hlength := (Date.length_chars hi.year_mem).trans (Date.length_chars hj.year_mem).symm
  rw [String.lt_iff_toList_lt, canonical, canonical, String.toList_ofList, String.toList_ofList,
    hi.chars_eq, hj.chars_eq, append_lt_append_iff hlength,
    Date.chars_lt_chars_iff hi.year_mem hj.year_mem, lt_iff, hi.time, hj.time]
  simp only [lt_irrefl, and_false]

end Instant

end Calendar

end BracketToken
