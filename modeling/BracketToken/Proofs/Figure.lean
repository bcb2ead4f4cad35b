import BracketToken.Proofs.Canonical

/-!
Numbers as a text of time may write them: blanks, digits, and before a year perhaps a sign.

A reader takes as many digits as it may, so what follows a number matters. Main statements:
`short?_eq_some_iff` and `year?_eq_some_iff`, a reader takes exactly the legal ways to write its
number, in front of a rest where the number ends; and `append_injective`, there is one way only to
take a text apart so.
-/

namespace BracketToken

namespace Text

/-- Blanks end where the text does not start with one. -/
theorem blanks_append_injective {blanks blanks' text text' : List Char}
    (hb : ∀ c ∈ blanks, isBlank c = true) (hb' : ∀ c ∈ blanks', isBlank c = true)
    (ht : SolidStart text) (ht' : SolidStart text') (h : blanks ++ text = blanks' ++ text') :
    blanks = blanks' ∧ text = text' := by
  obtain ⟨hrun, hrest⟩ := span_append hb ht
  obtain ⟨hrun', hrest'⟩ := span_append hb' ht'
  rw [h] at hrun hrest
  exact ⟨hrun.symm.trans hrun', hrest.symm.trans hrest'⟩

end Text

namespace Numeral

open Text

theorem IsDigits.solidStart {digits : List Char} (h : IsDigits digits) (rest : List Char) :
    SolidStart (digits ++ rest) := by
  have hsolid := solid_of_forall fun c hc => isBlank_of_isDigit (h.2 c hc)
  exact hsolid.1.append h.1 rest

theorem append_ne_cons {digits : List Char} (h : IsDigits digits) (rest other : List Char) {c : Char}
    (hc : c.isDigit = false) : digits ++ rest ≠ c :: other := by
  obtain ⟨d, text, rfl⟩ := List.exists_cons_of_ne_nil h.1
  rw [List.cons_append]
  intro heq
  exact ne_of_test (h.2 d List.mem_cons_self) hc (List.cons.inj heq).1

end Numeral

namespace Calendar

open Numeral Text

namespace Reading

/-- Where a number ends: it has all the digits that it may have, or no digit follows. -/
def EndsAt (limit : Option Nat) (digits rest : List Char) : Prop :=
  limit = some digits.length ∨ ∀ c ∈ rest.head?, c.isDigit = false

theorem endsAt_mark (limit : Option Nat) (digits rest : List Char) {mark : Char}
    (h : mark.isDigit = false) : EndsAt limit digits (mark :: rest) := by
  right
  rintro c ⟨⟩
  exact h

/-- What a reader takes of a run of digits: all of it, or as much as it may. -/
def front (run : List Char) : (limit : Option Nat) → List Char
  | none => run
  | some most => run.take most

theorem digits?_eq (limit : Option Nat) (text : List Char) :
    digits? limit text =
      let digits := front (text.takeWhile Char.isDigit) limit
      if digits.isEmpty then none else some (value digits, text.drop digits.length) := by
  cases limit <;> rfl

theorem front_isPrefix (run : List Char) (limit : Option Nat) : front run limit <+: run := by
  cases limit with
  | none => exact List.prefix_refl run
  | some most => exact List.take_prefix most run

theorem length_front_le (run : List Char) {limit : Option Nat} :
    ∀ most ∈ limit, (front run limit).length ≤ most := by
  rintro most rfl
  exact List.length_take_le most run

/-- Less than the whole run is taken only up to the limit. -/
theorem front_eq_self {run : List Char} {limit : Option Nat}
    (h : limit ≠ some (front run limit).length) : front run limit = run := by
  cases limit with
  | none => rfl
  | some most =>
      rw [front, List.length_take] at h
      have hne : most ≠ min most run.length := fun heq => h (congrArg some heq)
      exact List.take_of_length_le (by omega)

theorem front_append {digits : List Char} {limit : Option Nat}
    (hlimit : ∀ most ∈ limit, digits.length ≤ most) {more : List Char}
    (h : limit = some digits.length ∨ more = []) : front (digits ++ more) limit = digits := by
  rcases h with rfl | rfl
  · exact List.take_left
  · rw [List.append_nil]
    cases limit with
    | none => rfl
    | some most => exact List.take_of_length_le (hlimit most rfl)

/-- A reader takes a number that ends where it stops. -/
theorem digits?_eq_some_iff {limit : Option Nat} {text rest : List Char} {n : Nat} :
    digits? limit text = some (n, rest) ↔
      ∃ digits, IsDigits digits ∧ (∀ most ∈ limit, digits.length ≤ most) ∧ value digits = n ∧
        text = digits ++ rest ∧ EndsAt limit digits rest := by
  rw [digits?_eq]
  constructor
  · intro h
    obtain ⟨run, tail, rfl, hrun, htail⟩ : ∃ run tail, text = run ++ tail ∧
        (∀ c ∈ run, c.isDigit = true) ∧ ∀ c ∈ tail.head?, c.isDigit = false :=
      ⟨text.takeWhile Char.isDigit, text.dropWhile Char.isDigit,
        List.takeWhile_append_dropWhile.symm, fun _ => of_mem_takeWhile,
        fun _ => of_mem_head?_dropWhile⟩
    have hfront := front_isPrefix run limit
    rw [(span_append hrun htail).1] at h
    dsimp only at h
    split at h
    · cases h
    · next hne =>
        rw [List.isEmpty_iff] at hne
        cases h
        have hwhole : front run limit <+: run ++ tail := hfront.trans (List.prefix_append run tail)
        refine ⟨front run limit, ⟨hne, fun c hc => hrun c (hfront.subset hc)⟩,
          length_front_le run, rfl, (List.prefix_iff_eq_append.1 hwhole).symm, ?_⟩
        by_cases hall : limit = some (front run limit).length
        · exact .inl hall
        · right
          rw [front_eq_self hall, List.drop_left]
          exact htail
  · rintro ⟨digits, hdigits, hlimit, rfl, rfl, hends⟩
    have hne : digits.isEmpty = false := List.isEmpty_eq_false_iff.2 hdigits.1
    have hrun : (digits ++ rest).takeWhile Char.isDigit = digits ++ rest.takeWhile Char.isDigit :=
      List.takeWhile_append_of_pos hdigits.2
    have hfront : front (digits ++ rest.takeWhile Char.isDigit) limit = digits := by
      refine front_append hlimit (hends.imp_right fun hstop => ?_)
      exact (span_append (List.forall_mem_nil _) hstop).1
    simp only [hrun, hfront, hne, Bool.false_eq_true, if_false, List.drop_left]

theorem mark?_eq_some_iff {c : Char} {text rest : List Char} :
    mark? c text = some rest ↔ text = c :: rest := by
  cases text with
  | nil => simp [mark?]
  | cons d text =>
      by_cases h : d = c
      · simp [mark?, h]
      · simp [mark?, h]

end Reading

open Reading

/-- A number of up to two digits, and the blanks before it, which do not count. -/
structure Figure where
  blanks : List Char
  digits : List Char

namespace Figure

def chars (f : Figure) : List Char := f.blanks ++ f.digits

def number (f : Figure) : Nat := value f.digits

structure Legal (f : Figure) : Prop where
  blanks : ∀ c ∈ f.blanks, isBlank c = true
  digits : IsDigits f.digits
  short : f.digits.length ≤ 2

/-- Two digits, after that gap. -/
def Tight (gap : List Char) (f : Figure) : Prop := f.blanks = gap ∧ f.digits.length = 2

theorem chars_injective {f g : Figure} (hf : f.Legal) (hg : g.Legal) (h : f.chars = g.chars) :
    f = g := by
  have hsf := hf.digits.solidStart []
  have hsg := hg.digits.solidStart []
  rw [List.append_nil] at hsf hsg
  obtain ⟨hblanks, hdigits⟩ := blanks_append_injective hf.blanks hg.blanks hsf hsg h
  cases f
  cases g
  rw [mk.injEq]
  exact ⟨hblanks, hdigits⟩

theorem Tight.chars_eq {f : Figure} {gap : List Char} (h : f.Tight gap) (hf : f.Legal) :
    f.chars = gap ++ padded 2 f.number := by
  rw [chars, h.1, number, ← h.2, padded_value hf.digits]

/-- The number as it is written, after a gap. -/
def written (gap : List Char) (n : Nat) : Figure := ⟨gap, padded 2 n⟩

theorem written_legal (gap : List Char) (hgap : ∀ c ∈ gap, isBlank c = true) {n : Nat}
    (hn : n < 100) :
    (written gap n).Legal ∧ (written gap n).Tight gap ∧ (written gap n).number = n := by
  have hlength : (padded 2 n).length = 2 := length_padded (by decide) hn
  exact ⟨⟨hgap, isDigits_padded 2 n, hlength.le⟩, ⟨rfl, hlength⟩, value_padded 2 n⟩

end Figure

theorem short?_eq_some_iff {text rest : List Char} {n : Nat} :
    short? text = some (n, rest) ↔ ∃ f : Figure, f.Legal ∧ f.number = n ∧
      text = f.chars ++ rest ∧ EndsAt (some 2) f.digits rest := by
  rw [short?, digits?_eq_some_iff]
  constructor
  · rintro ⟨digits, hdigits, hlimit, hnumber, htext, hends⟩
    obtain ⟨blanks, hblanks, heq⟩ := exists_blanks text
    refine ⟨⟨blanks, digits⟩, ⟨hblanks, hdigits, hlimit 2 rfl⟩, hnumber, ?_, hends⟩
    rw [heq, htext, Figure.chars, List.append_assoc]
  · rintro ⟨f, hf, hnumber, rfl, hends⟩
    refine ⟨f.digits, hf.digits, ?_, hnumber, ?_, hends⟩
    · rintro most ⟨⟩
      exact hf.short
    · rw [Figure.chars, List.append_assoc, trimStart_append hf.blanks,
        trimStart_eq_self (hf.digits.solidStart rest)]

theorem Figure.append_injective {f g : Figure} {rest rest' : List Char} (hf : f.Legal)
    (hg : g.Legal) (hfe : EndsAt (some 2) f.digits rest) (hge : EndsAt (some 2) g.digits rest')
    (h : f.chars ++ rest = g.chars ++ rest') : f = g ∧ rest = rest' := by
  have hread := short?_eq_some_iff.2 ⟨f, hf, rfl, rfl, hfe⟩
  rw [h, short?_eq_some_iff.2 ⟨g, hg, rfl, rfl, hge⟩] at hread
  obtain rfl : rest' = rest := congrArg Prod.snd (Option.some.inj hread)
  exact ⟨chars_injective hf hg (List.append_cancel_right h), rfl⟩

/-- The sign of a year, which may be missing. -/
inductive YearSign
  | none
  | plus
  | minus
  deriving DecidableEq

namespace YearSign

def chars : YearSign → List Char
  | none => []
  | plus => ['+']
  | minus => ['-']

/-- Without a sign there is room for four digits only. -/
def limit : YearSign → Option Nat
  | none => some 4
  | plus | minus => Option.none

def number : YearSign → Nat → Int
  | none, n | plus, n => n
  | minus, n => -n

theorem solidStart_chars (sign : YearSign) {digits : List Char} (h : IsDigits digits)
    (rest : List Char) : SolidStart (sign.chars ++ (digits ++ rest)) := by
  cases sign with
  | none => exact h.solidStart rest
  | plus =>
      rintro c ⟨⟩
      decide
  | minus =>
      rintro c ⟨⟩
      decide

/-- A sign is no digit. -/
theorem chars_append_injective {sign sign' : YearSign} {digits digits' : List Char}
    (hd : IsDigits digits) (hd' : IsDigits digits')
    (h : sign.chars ++ digits = sign'.chars ++ digits') : sign = sign' ∧ digits = digits' := by
  have hplus : ∀ text, digits ++ [] ≠ '+' :: text := fun _ => append_ne_cons hd [] _ (by decide)
  have hminus : ∀ text, digits ++ [] ≠ '-' :: text := fun _ => append_ne_cons hd [] _ (by decide)
  have hplus' : ∀ text, digits' ++ [] ≠ '+' :: text := fun _ => append_ne_cons hd' [] _ (by decide)
  have hminus' : ∀ text, digits' ++ [] ≠ '-' :: text := fun _ => append_ne_cons hd' [] _ (by decide)
  rw [List.append_nil] at hplus hminus hplus' hminus'
  cases sign with
  | none =>
      cases sign' with
      | none => exact ⟨rfl, h⟩
      | plus => exact absurd h (hplus _)
      | minus => exact absurd h (hminus _)
  | plus =>
      cases sign' with
      | none => exact absurd h.symm (hplus' _)
      | plus => exact ⟨rfl, (List.cons.inj h).2⟩
      | minus => exact absurd (List.cons.inj h).1 (by decide)
  | minus =>
      cases sign' with
      | none => exact absurd h.symm (hminus' _)
      | plus => exact absurd (List.cons.inj h).1 (by decide)
      | minus => exact ⟨rfl, (List.cons.inj h).2⟩

end YearSign

/-- A year, and the blanks before it, which do not count. -/
structure YearFigure where
  blanks : List Char
  sign : YearSign
  digits : List Char

namespace YearFigure

def chars (y : YearFigure) : List Char := y.blanks ++ (y.sign.chars ++ y.digits)

def number (y : YearFigure) : Int := y.sign.number (value y.digits)

structure Legal (y : YearFigure) : Prop where
  blanks : ∀ c ∈ y.blanks, isBlank c = true
  digits : IsDigits y.digits
  short : ∀ most ∈ y.sign.limit, y.digits.length ≤ most

/-- No blanks, four digits or as many as it takes, and a sign where four digits do not do. -/
structure Tight (y : YearFigure) : Prop where
  blanks : y.blanks = []
  digits : y.digits = padded 4 (value y.digits)
  sign : y.sign ≠ .none → ¬ (0 ≤ y.number ∧ y.number ≤ 9999)

theorem chars_injective {y z : YearFigure} (hy : y.Legal) (hz : z.Legal) (h : y.chars = z.chars) :
    y = z := by
  have hsy := y.sign.solidStart_chars hy.digits []
  have hsz := z.sign.solidStart_chars hz.digits []
  rw [List.append_nil] at hsy hsz
  obtain ⟨hblanks, hrest⟩ := blanks_append_injective hy.blanks hz.blanks hsy hsz h
  obtain ⟨hsign, hdigits⟩ := YearSign.chars_append_injective hy.digits hz.digits hrest
  cases y
  cases z
  rw [mk.injEq]
  exact ⟨hblanks, hsign, hdigits⟩

theorem Tight.chars_eq {y : YearFigure} (h : y.Tight) (hy : y.Legal) :
    y.chars = yearText y.number := by
  obtain ⟨blanks, sign, digits⟩ := y
  obtain ⟨rfl, hdigits, hsign⟩ := h
  have hdigits : digits = padded 4 (value digits) := hdigits
  rw [← hasPlainYear_eq_true_iff] at hsign
  rw [yearText, chars, List.nil_append]
  cases sign with
  | none =>
      have hlt : value digits < 10 ^ 4 :=
        (value_lt hy.digits.2).trans_le (Nat.pow_le_pow_right (by decide) (hy.short 4 rfl))
      have hplain : hasPlainYear (number ⟨[], .none, digits⟩) = true :=
        hasPlainYear_eq_true_iff.2 ⟨Int.natCast_nonneg _, Int.ofNat_le.2 (Nat.le_of_lt_succ hlt)⟩
      rw [if_pos hplain]
      exact hdigits
  | plus =>
      have hnumber : number ⟨[], .plus, digits⟩ = (value digits : Int) := rfl
      have hsigned : YearSign.plus ≠ .none := by decide
      rw [if_neg (hsign hsigned), hnumber, if_neg (by omega), Int.natAbs_natCast, ← hdigits]
      rfl
  | minus =>
      have hnumber : number ⟨[], .minus, digits⟩ = -(value digits : Int) := rfl
      have hsigned : YearSign.minus ≠ .none := by decide
      have hlarge := hsign hsigned
      rw [if_neg hlarge]
      rw [hasPlainYear_eq_true_iff, hnumber] at hlarge
      rw [hnumber, if_pos (by omega), Int.natAbs_neg, Int.natAbs_natCast, ← hdigits]
      rfl

def written (year : Int) : YearFigure where
  blanks := []
  sign := if hasPlainYear year then .none else if year < 0 then .minus else .plus
  digits := padded 4 year.natAbs

theorem written_legal (year : Int) :
    (written year).Legal ∧ (written year).Tight ∧ (written year).number = year := by
  have hvalue : value (padded 4 year.natAbs) = year.natAbs := value_padded 4 _
  have hdigits : padded 4 year.natAbs = padded 4 (value (padded 4 year.natAbs)) := by rw [hvalue]
  have hplain : hasPlainYear year = true ↔ 0 ≤ year ∧ year ≤ 9999 := hasPlainYear_eq_true_iff
  unfold written
  split
  · next h =>
      have hbounds := hplain.1 h
      have hlength : (padded 4 year.natAbs).length = 4 := length_padded (by decide) (by omega)
      refine ⟨⟨List.forall_mem_nil _, isDigits_padded 4 _, ?_⟩, ⟨rfl, hdigits, nofun⟩, ?_⟩
      · rintro most ⟨⟩
        exact hlength.le
      · rw [number, hvalue]
        exact Int.natAbs_of_nonneg hbounds.1
  · next h =>
      have hlarge := mt hplain.2 h
      split
      · next hneg =>
          have hnumber : number ⟨[], .minus, padded 4 year.natAbs⟩ = year := by
            rw [number, hvalue]
            exact (congrArg Neg.neg (Int.ofNat_natAbs_of_nonpos hneg.le)).trans (Int.neg_neg year)
          refine ⟨⟨List.forall_mem_nil _, isDigits_padded 4 _, nofun⟩, ⟨rfl, hdigits, ?_⟩, hnumber⟩
          rw [hnumber]
          exact fun _ => hlarge
      · next hpos =>
          have hnumber : number ⟨[], .plus, padded 4 year.natAbs⟩ = year := by
            rw [number, hvalue]
            exact Int.natAbs_of_nonneg (Int.not_lt.1 hpos)
          refine ⟨⟨List.forall_mem_nil _, isDigits_padded 4 _, nofun⟩, ⟨rfl, hdigits, ?_⟩, hnumber⟩
          rw [hnumber]
          exact fun _ => hlarge

end YearFigure

/-- What is read after blanks and a sign makes a year with them. -/
theorem exists_yearFigure (sign : YearSign) {blanks body rest : List Char} {v : Nat}
    (hblanks : ∀ c ∈ blanks, isBlank c = true) (h : digits? sign.limit body = some (v, rest)) :
    ∃ y : YearFigure, y.Legal ∧ y.number = sign.number v ∧
      blanks ++ (sign.chars ++ body) = y.chars ++ rest ∧ EndsAt y.sign.limit y.digits rest := by
  obtain ⟨digits, hdigits, hlimit, rfl, rfl, hends⟩ := digits?_eq_some_iff.1 h
  refine ⟨⟨blanks, sign, digits⟩, ⟨hblanks, hdigits, hlimit⟩, rfl, ?_, hends⟩
  rw [YearFigure.chars, List.append_assoc, List.append_assoc]

theorem year?_eq_some_iff {text rest : List Char} {n : Int} :
    year? text = some (n, rest) ↔ ∃ y : YearFigure, y.Legal ∧ y.number = n ∧
      text = y.chars ++ rest ∧ EndsAt y.sign.limit y.digits rest := by
  constructor
  · intro h
    obtain ⟨blanks, hblanks, htext⟩ := exists_blanks text
    rw [htext]
    unfold year? at h
    split at h
    · next body hbody =>
        obtain ⟨⟨v, rest'⟩, hread, heq⟩ := Option.map_eq_some_iff.1 h
        cases heq
        rw [hbody]
        exact exists_yearFigure .minus hblanks hread
    · next body hbody =>
        obtain ⟨⟨v, rest'⟩, hread, heq⟩ := Option.map_eq_some_iff.1 h
        cases heq
        rw [hbody]
        exact exists_yearFigure .plus hblanks hread
    · obtain ⟨⟨v, rest'⟩, hread, heq⟩ := Option.map_eq_some_iff.1 h
      cases heq
      exact exists_yearFigure .none hblanks hread
  · rintro ⟨y, hy, rfl, rfl, hends⟩
    have hread : digits? y.sign.limit (y.digits ++ rest) = some (value y.digits, rest) :=
      digits?_eq_some_iff.2 ⟨y.digits, hy.digits, hy.short, rfl, rfl, hends⟩
    have htrim : trimStart (y.chars ++ rest) = y.sign.chars ++ (y.digits ++ rest) := by
      rw [YearFigure.chars, List.append_assoc, List.append_assoc, trimStart_append hy.blanks,
        trimStart_eq_self (y.sign.solidStart_chars hy.digits rest)]
    obtain ⟨blanks, sign, digits⟩ := y
    rw [year?, htrim]
    cases sign with
    | none =>
        have hdigits : IsDigits digits := hy.digits
        simp only [YearSign.chars, List.nil_append]
        split
        · next hminus => exact absurd hminus (append_ne_cons hdigits _ _ (by decide))
        · next hplus => exact absurd hplus (append_ne_cons hdigits _ _ (by decide))
        · exact Option.map_eq_some_iff.2 ⟨_, hread, rfl⟩
    | plus => exact Option.map_eq_some_iff.2 ⟨_, hread, rfl⟩
    | minus => exact Option.map_eq_some_iff.2 ⟨_, hread, rfl⟩

theorem YearFigure.append_injective {y z : YearFigure} {rest rest' : List Char} (hy : y.Legal)
    (hz : z.Legal) (hye : EndsAt y.sign.limit y.digits rest)
    (hze : EndsAt z.sign.limit z.digits rest') (h : y.chars ++ rest = z.chars ++ rest') :
    y = z ∧ rest = rest' := by
  have hread := year?_eq_some_iff.2 ⟨y, hy, rfl, rfl, hye⟩
  rw [h, year?_eq_some_iff.2 ⟨z, hz, rfl, rfl, hze⟩] at hread
  obtain rfl : rest' = rest := congrArg Prod.snd (Option.some.inj hread)
  exact ⟨chars_injective hy hz (List.append_cancel_right h), rfl⟩

end Calendar

end BracketToken
