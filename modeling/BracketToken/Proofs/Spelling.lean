import BracketToken.DateToken.Resolution
import BracketToken.Proofs.Figure

/-!
Instants as texts may write them.

A spelling is such a text taken apart into its numbers. Main statements: `canonical_lossless`, the
canonical text of an instant is read as the second that it lies in; `readInstant_iff_spelling`, a
reader takes exactly the legal spellings, and of these only the tight ones are canonical.
-/

namespace BracketToken

namespace Calendar

open Numeral Text Reading

namespace TimeOfDay

theorem of?_numbers (t : TimeOfDay) : of? t.hour t.minute t.second t.nano = some t :=
  dif_pos ⟨t.hour_lt, t.minute_lt, t.second_lt, t.nano_lt, t.leap_second⟩

theorem of?_eq_some_iff {hour minute second nano : Nat} {t : TimeOfDay} :
    of? hour minute second nano = some t ↔
      t.hour = hour ∧ t.minute = minute ∧ t.second = second ∧ t.nano = nano := by
  constructor
  · intro h
    unfold of? at h
    split at h
    · cases h
      exact ⟨rfl, rfl, rfl, rfl⟩
    · cases h
  · rintro ⟨rfl, rfl, rfl, rfl⟩
    exact t.of?_numbers

theorem clockSecond_lt (t : TimeOfDay) : t.clockSecond < 100 := by
  have hsecond := t.second_lt
  have hnano := t.nano_lt
  unfold clockSecond
  unfold nanosPerSecond at hnano ⊢
  omega

/-- Nothing is left over beyond the second, which may be a leap second. -/
def OnSecond (t : TimeOfDay) : Prop := t.nano = 0 ∨ t.nano = nanosPerSecond

/-- A clock shows second 60 in a leap second and at no other time. -/
theorem ofClock?_eq_some_iff {hour minute second : Nat} {t : TimeOfDay} :
    ofClock? hour minute second = some t ↔
      t.hour = hour ∧ t.minute = minute ∧ t.clockSecond = second ∧ t.OnSecond := by
  constructor
  · intro h
    unfold ofClock? at h
    split at h
    · next hleap =>
        obtain ⟨hhour, hminute, hsecond, hnano⟩ := of?_eq_some_iff.1 h
        refine ⟨hhour, hminute, ?_, .inr hnano⟩
        rw [clockSecond, hsecond, hnano, hleap]
        rfl
    · obtain ⟨hhour, hminute, hsecond, hnano⟩ := of?_eq_some_iff.1 h
      refine ⟨hhour, hminute, ?_, .inl hnano⟩
      rw [clockSecond, hsecond, hnano]
      rfl
  · rintro ⟨rfl, rfl, rfl, hplain | hleap⟩
    · have hclock : t.clockSecond = t.second := by rw [clockSecond, hplain, Nat.zero_div, Nat.add_zero]
      rw [ofClock?, hclock, if_neg (Nat.ne_of_lt t.second_lt), ← hplain, of?_numbers]
    · have hlast : t.second = 59 := t.leap_second (Nat.le_of_eq hleap.symm)
      have hclock : t.clockSecond = 60 := by
        rw [clockSecond, hleap, hlast]
        rfl
      rw [ofClock?, if_pos hclock, ← hlast, ← hleap, of?_numbers]

/-- The time without what is less than a second. A leap second stays one. -/
def wholeSecond (t : TimeOfDay) : TimeOfDay where
  hour := t.hour
  minute := t.minute
  second := t.second
  nano := t.nano / nanosPerSecond * nanosPerSecond
  hour_lt := t.hour_lt
  minute_lt := t.minute_lt
  second_lt := t.second_lt
  nano_lt := Nat.lt_of_le_of_lt (Nat.div_mul_le_self _ _) t.nano_lt
  leap_second h := t.leap_second (Nat.le_trans h (Nat.div_mul_le_self _ _))

theorem wholeSecond_nano (t : TimeOfDay) :
    t.wholeSecond.nano = if nanosPerSecond ≤ t.nano then nanosPerSecond else 0 := by
  have hnano := t.nano_lt
  change t.nano / nanosPerSecond * nanosPerSecond = _
  unfold nanosPerSecond at hnano ⊢
  split <;> omega

theorem onSecond_wholeSecond (t : TimeOfDay) : t.wholeSecond.OnSecond := by
  rw [OnSecond, wholeSecond_nano]
  split
  · exact .inr rfl
  · exact .inl rfl

theorem OnSecond.wholeSecond_eq {t : TimeOfDay} (h : t.OnSecond) : t.wholeSecond = t := by
  have hnano : t.wholeSecond.nano = t.nano := by
    rcases h with h | h <;> rw [wholeSecond_nano, h] <;> rfl
  cases t
  rw [mk.injEq]
  exact ⟨rfl, rfl, rfl, hnano⟩

theorem clockSecond_wholeSecond (t : TimeOfDay) : t.wholeSecond.clockSecond = t.clockSecond :=
  congrArg (t.second + ·) (Nat.mul_div_cancel _ (by decide))

end TimeOfDay

namespace Instant

def wholeSecond (i : Instant) : Instant := ⟨i.date, i.time.wholeSecond⟩

theorem chars_wholeSecond (i : Instant) : i.wholeSecond.chars = i.chars := by
  have htime : i.time.wholeSecond.chars = i.time.chars := by
    rw [TimeOfDay.chars, TimeOfDay.clockSecond_wholeSecond]
    rfl
  rw [chars, chars, wholeSecond, htime]

theorem wholeSecond_eq_self {i : Instant} (h : i.time.OnSecond) : i.wholeSecond = i := by
  rw [wholeSecond, h.wholeSecond_eq]

/-- A second is the one that `i` lies in; a leap second counts as one of its own. -/
structure IsSecondOf (w i : Instant) : Prop where
  date : w.date = i.date
  hour : w.time.hour = i.time.hour
  minute : w.time.minute = i.time.minute
  second : w.time.second = i.time.second
  nano : w.time.nano = if nanosPerSecond ≤ i.time.nano then nanosPerSecond else 0

theorem wholeSecond_isSecondOf (i : Instant) : i.wholeSecond.IsSecondOf i :=
  ⟨rfl, rfl, rfl, rfl, i.time.wholeSecond_nano⟩

theorem IsSecondOf.eq_wholeSecond {w i : Instant} (h : w.IsSecondOf i) : w = i.wholeSecond := by
  have htime : w.time = i.time.wholeSecond := by
    rw [← Option.some_inj, ← w.time.of?_numbers, TimeOfDay.of?_eq_some_iff, h.hour, h.minute,
      h.second, h.nano, i.time.wholeSecond_nano]
    exact ⟨rfl, rfl, rfl, rfl⟩
  obtain ⟨date, time⟩ := w
  rw [show date = i.date from h.date, show time = _ from htime]
  rfl

end Instant

/-- The numbers of a text, with the blanks between them. -/
structure Spelling where
  year : YearFigure
  month : Figure
  day : Figure
  hour : Figure
  minute : Figure
  second : Figure

namespace Spelling

def chars (s : Spelling) : List Char :=
  s.year.chars ++ '-' :: (s.month.chars ++ '-' :: (s.day.chars ++ (s.hour.chars ++ ':' ::
    (s.minute.chars ++ ':' :: (s.second.chars ++ ['Z'])))))

structure Legal (s : Spelling) : Prop where
  year : s.year.Legal
  month : s.month.Legal
  day : s.day.Legal
  hour : s.hour.Legal
  minute : s.minute.Legal
  second : s.second.Legal
  /-- Without a blank behind it a day of one digit would take the first digit of the hour. -/
  parted : s.hour.blanks = [] → s.day.digits.length = 2

structure Denotes (s : Spelling) (i : Instant) : Prop where
  year : i.date.year = s.year.number
  month : i.date.month = s.month.number
  day : i.date.day = s.day.number
  hour : i.time.hour = s.hour.number
  minute : i.time.minute = s.minute.number
  second : i.time.clockSecond = s.second.number
  whole : i.time.OnSecond

/-- No blank but one before the hour, and all digits that belong there but no more. -/
structure Tight (s : Spelling) : Prop where
  year : s.year.Tight
  month : s.month.Tight []
  day : s.day.Tight []
  hour : s.hour.Tight [' ']
  minute : s.minute.Tight []
  second : s.second.Tight []

/-- What may follow the day: the hour after a blank, or at once where the day has two digits. -/
theorem endsAt_hour_iff {day hour : Figure} (h : hour.Legal) (rest : List Char) :
    EndsAt (some 2) day.digits (hour.chars ++ rest) ↔
      (hour.blanks = [] → day.digits.length = 2) := by
  obtain ⟨blanks, digits⟩ := hour
  cases blanks with
  | nil =>
      obtain ⟨c, digits, rfl⟩ := List.exists_cons_of_ne_nil h.digits.1
      have hc : c.isDigit = true := h.digits.2 c List.mem_cons_self
      constructor
      · rintro (hfull | hstop) -
        · exact (Option.some.inj hfull).symm
        · rw [hstop c rfl] at hc
          cases hc
      · intro hfull
        exact .inl (congrArg some (hfull rfl).symm)
  | cons c blanks =>
      have hblank : isBlank c = true := h.blanks c List.mem_cons_self
      have hc : c.isDigit = false := by
        by_contra hdigit
        rw [isBlank_of_isDigit (Bool.eq_true_of_not_eq_false hdigit)] at hblank
        cases hblank
      constructor
      · intro _ hnil
        cases hnil
      · intro _
        exact endsAt_mark _ _ _ hc

/-- Every step of the reader takes one piece of a spelling. -/
theorem exists_of_ofChars? {text : List Char} {i : Instant} (h : Instant.ofChars? text = some i) :
    ∃ s : Spelling, s.Legal ∧ text = s.chars ∧ s.Denotes i := by
  simp only [Instant.ofChars?, bind, Option.bind_eq_some_iff, Prod.exists, year?_eq_some_iff,
    short?_eq_some_iff, mark?_eq_some_iff] at h
  obtain ⟨_, _, ⟨year, hyear, rfl, rfl, -⟩, _, rfl, h⟩ := h
  obtain ⟨_, _, ⟨month, hmonth, rfl, rfl, -⟩, _, rfl, h⟩ := h
  obtain ⟨_, _, ⟨day, hday, rfl, rfl, hends⟩, h⟩ := h
  obtain ⟨_, _, ⟨hour, hhour, rfl, rfl, -⟩, _, rfl, h⟩ := h
  obtain ⟨_, _, ⟨minute, hminute, rfl, rfl, -⟩, _, rfl, h⟩ := h
  obtain ⟨_, _, ⟨second, hsecond, rfl, rfl, -⟩, rest, rfl, h⟩ := h
  obtain ⟨_, hend, date, hdate, time, htime, h⟩ := h
  cases h
  obtain ⟨hyear', hmonth', hday'⟩ := Date.of?_eq_some_iff.1 hdate
  obtain ⟨hhour', hminute', hsecond', hwhole⟩ := TimeOfDay.ofClock?_eq_some_iff.1 htime
  have hnil : rest = [] := by
    cases rest with
    | nil => rfl
    | cons c rest => cases hend
  subst hnil
  refine ⟨⟨year, month, day, hour, minute, second⟩, ⟨hyear, hmonth, hday, hhour, hminute, hsecond,
    (endsAt_hour_iff hhour _).1 hends⟩, rfl, ?_⟩
  exact ⟨hyear', hmonth', hday', hhour', hminute', hsecond', hwhole⟩

theorem Legal.ofChars?_eq {s : Spelling} {i : Instant} (h : s.Legal) (hd : s.Denotes i) :
    Instant.ofChars? s.chars = some i := by
  have hhyphen : '-'.isDigit = false := by decide
  have hcolon : ':'.isDigit = false := by decide
  have hdate : Date.of? s.year.number s.month.number s.day.number = some i.date :=
    Date.of?_eq_some_iff.2 ⟨hd.year, hd.month, hd.day⟩
  have htime : TimeOfDay.ofClock? s.hour.number s.minute.number s.second.number = some i.time :=
    TimeOfDay.ofClock?_eq_some_iff.2 ⟨hd.hour, hd.minute, hd.second, hd.whole⟩
  refine Option.bind_eq_some_iff.2 ⟨_, year?_eq_some_iff.2
    ⟨s.year, h.year, rfl, rfl, endsAt_mark _ _ _ hhyphen⟩, ?_⟩
  refine Option.bind_eq_some_iff.2 ⟨_, mark?_eq_some_iff.2 rfl, ?_⟩
  refine Option.bind_eq_some_iff.2 ⟨_, short?_eq_some_iff.2
    ⟨s.month, h.month, rfl, rfl, endsAt_mark _ _ _ hhyphen⟩, ?_⟩
  refine Option.bind_eq_some_iff.2 ⟨_, mark?_eq_some_iff.2 rfl, ?_⟩
  refine Option.bind_eq_some_iff.2 ⟨_, short?_eq_some_iff.2
    ⟨s.day, h.day, rfl, rfl, (endsAt_hour_iff h.hour _).2 h.parted⟩, ?_⟩
  refine Option.bind_eq_some_iff.2 ⟨_, short?_eq_some_iff.2
    ⟨s.hour, h.hour, rfl, rfl, endsAt_mark _ _ _ hcolon⟩, ?_⟩
  refine Option.bind_eq_some_iff.2 ⟨_, mark?_eq_some_iff.2 rfl, ?_⟩
  refine Option.bind_eq_some_iff.2 ⟨_, short?_eq_some_iff.2
    ⟨s.minute, h.minute, rfl, rfl, endsAt_mark _ _ _ hcolon⟩, ?_⟩
  refine Option.bind_eq_some_iff.2 ⟨_, mark?_eq_some_iff.2 rfl, ?_⟩
  refine Option.bind_eq_some_iff.2 ⟨_, short?_eq_some_iff.2
    ⟨s.second, h.second, rfl, rfl, endsAt_mark _ _ _ (by decide)⟩, ?_⟩
  refine Option.bind_eq_some_iff.2 ⟨_, mark?_eq_some_iff.2 rfl, ?_⟩
  refine Option.bind_eq_some_iff.2 ⟨(), rfl, ?_⟩
  refine Option.bind_eq_some_iff.2 ⟨_, hdate, ?_⟩
  exact Option.bind_eq_some_iff.2 ⟨_, htime, rfl⟩

theorem eq_of_chars {s t : Spelling} (hs : s.Legal) (ht : t.Legal) (h : s.chars = t.chars) :
    s = t := by
  have hhyphen : '-'.isDigit = false := by decide
  have hcolon : ':'.isDigit = false := by decide
  have hend : 'Z'.isDigit = false := by decide
  obtain ⟨year, month, day, hour, minute, second⟩ := s
  obtain ⟨year', month', day', hour', minute', second'⟩ := t
  obtain ⟨rfl, h⟩ := YearFigure.append_injective hs.year ht.year (endsAt_mark _ _ _ hhyphen)
    (endsAt_mark _ _ _ hhyphen) h
  obtain ⟨rfl, h⟩ := Figure.append_injective hs.month ht.month (endsAt_mark _ _ _ hhyphen)
    (endsAt_mark _ _ _ hhyphen) (List.cons.inj h).2
  obtain ⟨rfl, h⟩ := Figure.append_injective hs.day ht.day
    ((endsAt_hour_iff hs.hour _).2 hs.parted) ((endsAt_hour_iff ht.hour _).2 ht.parted)
    (List.cons.inj h).2
  obtain ⟨rfl, h⟩ := Figure.append_injective hs.hour ht.hour (endsAt_mark _ _ _ hcolon)
    (endsAt_mark _ _ _ hcolon) h
  obtain ⟨rfl, h⟩ := Figure.append_injective hs.minute ht.minute (endsAt_mark _ _ _ hcolon)
    (endsAt_mark _ _ _ hcolon) (List.cons.inj h).2
  obtain ⟨rfl, -⟩ := Figure.append_injective hs.second ht.second (endsAt_mark _ _ _ hend)
    (endsAt_mark _ _ _ hend) (List.cons.inj h).2
  rfl

theorem Tight.chars_eq {s : Spelling} {i : Instant} (h : s.Tight) (hs : s.Legal)
    (hd : s.Denotes i) : s.chars = i.chars := by
  rw [chars, h.year.chars_eq hs.year, h.month.chars_eq hs.month, h.day.chars_eq hs.day,
    h.hour.chars_eq hs.hour, h.minute.chars_eq hs.minute, h.second.chars_eq hs.second, ← hd.year,
    ← hd.month, ← hd.day, ← hd.hour, ← hd.minute, ← hd.second]
  simp only [Instant.chars, Date.chars, TimeOfDay.chars, List.append_assoc, List.cons_append,
    List.nil_append]

/-- The canonical text of a second has a spelling, with one blank in it. -/
theorem exists_tight {i : Instant} (hwhole : i.time.OnSecond) :
    ∃ s : Spelling, s.Legal ∧ s.Tight ∧ s.Denotes i := by
  have hmonth := i.date.month_mem
  have hday := i.date.day_mem
  have hlength := monthLength_mem i.date.year i.date.month
  have hhour := i.time.hour_lt
  have hminute := i.time.minute_lt
  have hsecond := i.time.clockSecond_lt
  have hblank : ∀ c ∈ [' '], isBlank c = true := List.forall_mem_singleton.2 (by decide)
  have written : ∀ n < 100, _ := fun n hn => Figure.written_legal [] (List.forall_mem_nil _) hn
  obtain ⟨hy, hyt, hyn⟩ := YearFigure.written_legal i.date.year
  obtain ⟨hmo, hmot, hmon⟩ := written i.date.month (by omega)
  obtain ⟨hda, hdat, hdan⟩ := written i.date.day (by omega)
  obtain ⟨hho, hhot, hhon⟩ := Figure.written_legal [' '] hblank (n := i.time.hour) (by omega)
  obtain ⟨hmi, hmit, hmin⟩ := written i.time.minute (by omega)
  obtain ⟨hse, hset, hsen⟩ := written i.time.clockSecond hsecond
  refine ⟨⟨_, _, _, _, _, _⟩, ⟨hy, hmo, hda, hho, hmi, hse, ?_⟩,
    ⟨hyt, hmot, hdat, hhot, hmit, hset⟩,
    ⟨hyn.symm, hmon.symm, hdan.symm, hhon.symm, hmin.symm, hsen.symm, hwhole⟩⟩
  intro _
  exact hdat.2

theorem chars_eq_iff_tight {s : Spelling} {i : Instant} (hs : s.Legal) (hd : s.Denotes i) :
    i.chars = s.chars ↔ s.Tight := by
  constructor
  · intro h
    obtain ⟨t, ht, htight, htd⟩ := exists_tight hd.whole
    rw [← htight.chars_eq ht htd] at h
    exact eq_of_chars ht hs h ▸ htight
  · intro h
    exact (h.chars_eq hs hd).symm

end Spelling

/-- Reading undoes writing, but for what is less than a second. -/
theorem Instant.ofChars?_chars (i : Instant) : Instant.ofChars? i.chars = some i.wholeSecond := by
  obtain ⟨s, hs, htight, hd⟩ := Spelling.exists_tight (i := i.wholeSecond) i.time.onSecond_wholeSecond
  rw [← i.chars_wholeSecond, ← htight.chars_eq hs hd]
  exact hs.ofChars?_eq hd

end Calendar

namespace DateToken

open Calendar Numeral

theorem readInstant_eq_ok_iff {text : String} {i : Instant} :
    readInstant text = .ok i ↔ Instant.ofChars? text.toList = some i := by
  rw [readInstant]
  cases Instant.ofChars? text.toList with
  | none => simp
  | some j => simp

/-- Of an instant nothing is lost in its canonical text but what is less than a second. -/
theorem canonical_lossless :
    (∀ i : Instant, ∃ w, readInstant i.canonical = .ok w ∧ w.IsSecondOf i) ∧
      ∀ i j : Instant, i.time.OnSecond → j.time.OnSecond → i.canonical = j.canonical → i = j := by
  have hread : ∀ i : Instant, readInstant i.canonical = .ok i.wholeSecond := by
    intro i
    rw [readInstant_eq_ok_iff, Instant.canonical, String.toList_ofList, i.ofChars?_chars]
  constructor
  · intro i
    exact ⟨i.wholeSecond, hread i, i.wholeSecond_isSecondOf⟩
  · intro i j hi hj h
    have hsame := hread i
    rw [h, hread j, Except.ok.injEq, Instant.wholeSecond_eq_self hi,
      Instant.wholeSecond_eq_self hj] at hsame
    exact hsame.symm

/-- A leap second of the first year is told from the second before it. -/
theorem canonical_lossless_leap_second :
    let first : Date := ⟨-262143, 12, 31, by decide, by decide, by decide⟩
    let late : Instant :=
      ⟨first, ⟨23, 59, 59, 1999999999, by decide, by decide, by decide, by decide, by decide⟩⟩
    let leap : Instant :=
      ⟨first, ⟨23, 59, 59, 1000000000, by decide, by decide, by decide, by decide, by decide⟩⟩
    let plain : Instant :=
      ⟨first, ⟨23, 59, 59, 0, by decide, by decide, by decide, by decide, by decide⟩⟩
    late.canonical = "-262143-12-31 23:59:60Z" ∧ readInstant late.canonical = .ok leap ∧
      (leap.time.OnSecond ∧ plain.time.OnSecond ∧ leap ≠ plain) ∧
      leap.canonical ≠ plain.canonical := by
  intro first late leap plain
  have hleap : leap.time.OnSecond := .inr rfl
  have hplain : plain.time.OnSecond := .inl rfl
  have hne : leap ≠ plain := by decide
  obtain ⟨w, hread, hsecond⟩ := canonical_lossless.1 late
  have hw : w = leap := hsecond.eq_wholeSecond.trans (by decide)
  refine ⟨by decide +kernel, hw ▸ hread, ⟨hleap, hplain, hne⟩, ?_⟩
  intro h
  exact hne (canonical_lossless.2 leap plain hleap hplain h)

/-- The reader takes the legal spellings and no other texts, and only the tight ones are as they
would be written. -/
theorem readInstant_iff_spelling (text : String) (i : Instant) :
    (readInstant text = .ok i ↔
        ∃ s : Spelling, s.Legal ∧ text.toList = s.chars ∧ s.Denotes i) ∧
      ∀ s : Spelling, s.Legal → text.toList = s.chars → s.Denotes i →
        (i.canonical = text ↔ s.Tight) := by
  rw [readInstant_eq_ok_iff]
  refine ⟨⟨Spelling.exists_of_ofChars?, ?_⟩, ?_⟩
  · rintro ⟨s, hs, htext, hd⟩
    rw [htext]
    exact hs.ofChars?_eq hd
  · intro s hs htext hd
    rw [← Spelling.chars_eq_iff_tight hs hd, ← htext, Instant.canonical, ← String.toList_inj,
      String.toList_ofList]

/-- A blank in front, a sign too many, a month of one digit and no blank before the hour. -/
theorem readInstant_iff_spelling_loose :
    let s : Spelling := ⟨⟨[' '], .plus, "2024".toList⟩, ⟨[], ['2']⟩, ⟨[], "29".toList⟩,
      ⟨[], "00".toList⟩, ⟨[], "00".toList⟩, ⟨[], "60".toList⟩⟩
    let i : Instant := ⟨⟨2024, 2, 29, by decide, by decide, by decide⟩,
      ⟨0, 0, 59, 1000000000, by decide, by decide, by decide, by decide, by decide⟩⟩
    (s.Legal ∧ " +2024-2-2900:00:60Z".toList = s.chars ∧ s.Denotes i) ∧
      readInstant " +2024-2-2900:00:60Z" = .ok i ∧
      (i.canonical = " +2024-2-2900:00:60Z" ↔ s.Tight) ∧ ¬ s.Tight := by
  intro s i
  have figure : ∀ digits, isNumeral digits = true → digits.length ≤ 2 →
      (Figure.mk [] digits).Legal := fun _ hdigits hshort =>
    ⟨List.forall_mem_nil _, isNumeral_eq_true_iff.1 hdigits, hshort⟩
  have hyear : s.year.Legal :=
    ⟨List.forall_mem_singleton.2 (by decide), isNumeral_eq_true_iff.1 (by decide), nofun⟩
  have hs : s.Legal := ⟨hyear, figure _ rfl (by decide), figure _ rfl (by decide),
    figure _ rfl (by decide), figure _ rfl (by decide), figure _ rfl (by decide), fun _ => rfl⟩
  have htext : " +2024-2-2900:00:60Z".toList = s.chars := by decide
  have hd : s.Denotes i := ⟨rfl, rfl, rfl, rfl, rfl, by decide, .inr rfl⟩
  obtain ⟨hread, htight⟩ := readInstant_iff_spelling " +2024-2-2900:00:60Z" i
  refine ⟨⟨hs, htext, hd⟩, hread.2 ⟨s, hs, htext, hd⟩, htight s hs htext hd, ?_⟩
  intro h
  cases h.year.blanks

/-- Digits that are left out are put back by writing. -/
theorem canonical_ne_of_short_digits :
    let i : Instant := ⟨⟨2025, 1, 2, by decide, by decide, by decide⟩,
      ⟨3, 4, 5, 0, by decide, by decide, by decide, by decide, by decide⟩⟩
    readInstant "2025-1-2 3:4:5Z" = .ok i ∧ i.canonical = "2025-01-02 03:04:05Z" ∧
      i.canonical ≠ "2025-1-2 3:4:5Z" := by
  decide +kernel

end DateToken

end BracketToken
