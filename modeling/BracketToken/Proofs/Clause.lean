import BracketToken.DateToken.Reader
import BracketToken.Proofs.Numeral
import BracketToken.Proofs.Text

/-!
Clauses as they are written: a sign, digits and a unit. A text is clauses one after another in at
most one way, because a sign is no digit, a unit holds no digit and ends before the next sign.

What the reader makes of the front of a text is said once: `Opens.clause_eq` for a text that opens
as a clause does, and `clause_of_not_opens` for any other.
-/

namespace BracketToken.DateToken

open Numeral

structure Clause where
  minus : Bool
  digits : List Char
  unit : CalendarUnit

def Adjustment.parts (a : Adjustment) : Int × CalendarUnit := (a.amount.toInt, a.unit)

namespace Clause

def sign (c : Clause) : Char := if c.minus then '-' else '+'

def chars (c : Clause) : List Char := c.sign :: (c.digits ++ c.unit.keyword.toList)

def amount (c : Clause) : Int := if c.minus then -value c.digits else value c.digits

def parts (c : Clause) : Int × CalendarUnit := (c.amount, c.unit)

/-- Any number of leading zeros, and a number that a signed word of 64 bits holds. -/
structure Legal (c : Clause) : Prop where
  digits : IsDigits c.digits
  value_le : value c.digits ≤ 9223372036854775807

end Clause

theorem CalendarUnit.ofKeyword?_eq_some_iff {word : List Char} {u : CalendarUnit} :
    ofKeyword? word = some u ↔ word = u.keyword.toList :=
  Text.find?_word_eq_some_iff ofKeyword?_keyword

def IsLetters (word : List Char) : Prop := word ≠ [] ∧ ∀ x ∈ word, x.isAlpha = true

theorem CalendarUnit.isLetters_keyword (u : CalendarUnit) : IsLetters u.keyword.toList := by
  cases u <;> exact ⟨by decide, Text.forall_mem_of_all (by decide)⟩

theorem Clause.Legal.forall_chars {c : Clause} (h : c.Legal) {p : Char → Prop}
    (hletter : ∀ x, x.isAlpha = true → p x) (hdigit : ∀ x, x.isDigit = true → p x)
    (hplus : p '+') (hminus : p '-') : ∀ x ∈ c.chars, p x := by
  intro x hx
  rw [chars, List.mem_cons, List.mem_append] at hx
  rcases hx with rfl | hx | hx
  · rw [sign]
    cases c.minus
    · exact hplus
    · exact hminus
  · exact hdigit x (h.digits.2 x hx)
  · exact hletter x (c.unit.isLetters_keyword.2 x hx)

theorem isMinus?_eq_some_iff {x : Char} {minus : Bool} :
    isMinus? x = some minus ↔ x = if minus then '-' else '+' := by
  unfold isMinus?
  by_cases hplus : x = '+'
  · subst hplus
    cases minus <;> decide
  · by_cases hminus : x = '-'
    · subst hminus
      cases minus <;> decide
    · rw [if_neg hplus, if_neg hminus]
      cases minus
      · exact iff_of_false (by simp) hplus
      · exact iff_of_false (by simp) hminus

/-- What may follow a clause: the unit would go on with a letter. -/
def Stops (rest : List Char) : Prop := ∀ x ∈ rest.head?, x.isAlpha = false

theorem isDigit_of_isAlpha {x : Char} (h : x.isAlpha = true) : x.isDigit = false := by
  have hletter : 65 ≤ x.toNat := by
    rcases (Bool.or_eq_true x.isUpper x.isLower).mp h with hupper | hlower
    · have hrange : x.val ≥ 'A'.val ∧ x.val ≤ 'Z'.val := of_decide_eq_true hupper
      exact hrange.1
    · have hrange : (decide (x.val ≥ 'a'.val) && decide (x.val ≤ 'z'.val)) = true := hlower
      have hlow : 97 ≤ x.toNat := of_decide_eq_true (Bool.and_eq_true_iff.1 hrange).1
      exact Nat.le_trans (by decide) hlow
  rw [Bool.eq_false_iff, ne_eq, Char.isDigit_iff_toNat]
  rintro ⟨-, hdigit⟩
  exact absurd (Nat.le_trans hletter hdigit) (by decide)

theorem digits_span {digits word : List Char} (rest : List Char) (h : IsDigits digits)
    (hword : IsLetters word) :
    (digits ++ (word ++ rest)).takeWhile Char.isDigit = digits ∧
      (digits ++ (word ++ rest)).dropWhile Char.isDigit = word ++ rest := by
  refine Text.span_append h.2 ?_
  obtain ⟨x, letters, rfl⟩ := List.exists_cons_of_ne_nil hword.1
  rintro y ⟨⟩
  exact isDigit_of_isAlpha (hword.2 x List.mem_cons_self)

theorem word_span {word rest : List Char} (hword : IsLetters word) (h : Stops rest) :
    (word ++ rest).takeWhile Char.isAlpha = word ∧ (word ++ rest).dropWhile Char.isAlpha = rest :=
  Text.span_append hword.2 h

/-- Where clauses begin is fixed by their characters. -/
theorem Clause.Legal.append_injective {c d : Clause} {rest rest' : List Char} (hc : c.Legal)
    (hd : d.Legal) (hrest : Stops rest) (hrest' : Stops rest')
    (h : c.chars ++ rest = d.chars ++ rest') : c = d ∧ rest = rest' := by
  obtain ⟨minus, digits, unit⟩ := c
  obtain ⟨minus', digits', unit'⟩ := d
  rw [chars, chars, List.cons_append, List.cons_append, List.cons.injEq, List.append_assoc,
    List.append_assoc] at h
  obtain ⟨hsign, htext⟩ := h
  have hdigits := digits_span rest hc.digits unit.isLetters_keyword
  have hdigits' := digits_span rest' hd.digits unit'.isLetters_keyword
  dsimp only at htext hdigits hdigits'
  rw [htext, hdigits'.1, hdigits'.2] at hdigits
  have hunit := word_span unit.isLetters_keyword hrest
  rw [← hdigits.2, (word_span unit'.isLetters_keyword hrest').1,
    (word_span unit'.isLetters_keyword hrest').2] at hunit
  have hminus : minus = minus' := by
    have hsign' := isMinus?_eq_some_iff.2 hsign
    rw [sign, isMinus?_eq_some_iff.2 rfl, Option.some.injEq] at hsign'
    exact hsign'
  rw [Clause.mk.injEq]
  exact ⟨⟨hminus, hdigits.1.symm, (Text.word_injective CalendarUnit.ofKeyword?_keyword hunit.1).symm⟩, hunit.2.symm⟩

theorem toInt_signed {minus : Bool} {w : Int64} {n : Nat} (h : w.toInt = n) :
    (if minus then -w else w).toInt = if minus then -(n : Int) else n := by
  cases minus with
  | false => exact h
  | true =>
      have hneg := toInt_neg_of_nonneg (w := w) (by omega)
      rw [h] at hneg
      exact hneg

/-- A text that opens as a clause does: a sign, digits, and letters as far as they go. The digits end
where the letters begin. -/
structure Opens (text : List Char) (minus : Bool) (digits word rest : List Char) : Prop where
  text : text = (if minus then '-' else '+') :: (digits ++ (word ++ rest))
  digits : IsDigits digits
  word : IsLetters word
  stops : Stops rest

/-- The unit is judged before the number. -/
theorem Opens.clause_eq {text digits word rest : List Char} {minus : Bool}
    (h : Opens text minus digits word rest) (token : String) :
    clause token text = match CalendarUnit.ofKeyword? word with
      | none => .error (.invalidUnit (.ofList word))
      | some unit =>
        match int64? (value digits) with
        | none => .error (.outOfRange (.amount digits unit))
        | some magnitude => .ok (⟨if minus then -magnitude else magnitude, unit⟩, rest) := by
  obtain ⟨htext, hdigits, hword, hstops⟩ := h
  have hdigits' := digits_span rest hdigits hword
  have hword' := word_span hword hstops
  have hne : (digits.isEmpty || word.isEmpty) = false := by
    rw [Bool.or_eq_false_iff, List.isEmpty_eq_false_iff, List.isEmpty_eq_false_iff]
    exact ⟨hdigits.1, hword.1⟩
  rw [htext, clause, isMinus?_eq_some_iff.2 rfl]
  cases hunit : CalendarUnit.ofKeyword? word with
  | none => simp only [hdigits', hword', hne, hunit, Bool.false_eq_true, if_false]
  | some unit =>
      cases hmagnitude : int64? (value digits) <;>
        simp only [hdigits', hword', hne, hunit, hmagnitude, Bool.false_eq_true, if_false]

theorem clause_of_not_opens {text : List Char}
    (h : ∀ minus digits word rest, ¬ Opens text minus digits word rest) (token : String) :
    clause token text = .error (.invalidFormat token) := by
  cases text with
  | nil => rfl
  | cons sign text =>
      rw [clause]
      cases hsign : isMinus? sign with
      | none => rfl
      | some minus =>
          refine if_pos (Classical.byContradiction fun hne => ?_)
          rw [Bool.or_eq_true, List.isEmpty_iff, List.isEmpty_iff, not_or] at hne
          -- The reader's own runs would open the text as a clause.
          refine h minus _ _ ((text.dropWhile Char.isDigit).dropWhile Char.isAlpha) ⟨?_,
            ⟨hne.1, fun x hx => Text.of_mem_takeWhile hx⟩,
            ⟨hne.2, fun x hx => Text.of_mem_takeWhile hx⟩,
            fun x hx => Text.of_mem_head?_dropWhile hx⟩
          rw [List.takeWhile_append_dropWhile, List.takeWhile_append_dropWhile,
            isMinus?_eq_some_iff.1 hsign]

theorem exists_opens_of_clause {token : String} {text rest : List Char} {a : Adjustment}
    (h : clause token text = .ok (a, rest)) :
    ∃ minus digits word rest', Opens text minus digits word rest' := by
  refine Classical.byContradiction fun hnot => ?_
  simp only [not_exists] at hnot
  rw [clause_of_not_opens hnot] at h
  cases h

theorem exists_clause_of_clause {token : String} {text rest : List Char} {a : Adjustment}
    (h : clause token text = .ok (a, rest)) :
    ∃ c : Clause, c.Legal ∧ a.parts = c.parts ∧ text = c.chars ++ rest ∧ Stops rest := by
  obtain ⟨minus, digits, word, rest', hopens⟩ := exists_opens_of_clause h
  rw [hopens.clause_eq] at h
  cases hunit : CalendarUnit.ofKeyword? word with
  | none =>
      rw [hunit] at h
      cases h
  | some unit =>
      cases hmagnitude : int64? (value digits) with
      | none =>
          simp only [hunit, hmagnitude] at h
          cases h
      | some magnitude =>
          simp only [hunit, hmagnitude, Except.ok.injEq, Prod.mk.injEq] at h
          obtain ⟨rfl, rfl⟩ := h
          have hvalue := toInt_of_int64? hmagnitude
          have hlt := magnitude.toInt_lt
          refine ⟨⟨minus, digits, unit⟩, ⟨hopens.digits, ?_⟩, Prod.ext (toInt_signed hvalue) rfl,
            ?_, hopens.stops⟩
          · dsimp only
            omega
          · rw [hopens.text, CalendarUnit.ofKeyword?_eq_some_iff.1 hunit, Clause.chars,
              List.cons_append, List.append_assoc]
            rfl

theorem Clause.opens {c : Clause} {rest : List Char} (h : IsDigits c.digits) (hrest : Stops rest) :
    Opens (c.chars ++ rest) c.minus c.digits c.unit.keyword.toList rest := by
  refine ⟨?_, h, c.unit.isLetters_keyword, hrest⟩
  rw [chars, List.cons_append, List.append_assoc]
  rfl

theorem Clause.Legal.clause_eq {c : Clause} {rest : List Char} (token : String) (h : c.Legal)
    (hrest : Stops rest) :
    ∃ a : Adjustment, clause token (c.chars ++ rest) = .ok (a, rest) ∧ a.parts = c.parts := by
  have hle := h.value_le
  obtain ⟨magnitude, hmagnitude⟩ := exists_int64 (n := value c.digits) (by omega)
  refine ⟨⟨if c.minus then -magnitude else magnitude, c.unit⟩, ?_,
    Prod.ext (toInt_signed hmagnitude) rfl⟩
  simp only [(Clause.opens h.digits hrest).clause_eq, CalendarUnit.ofKeyword?_keyword,
    int64?_eq_some_iff.2 hmagnitude]

theorem clauses_of_ne_nil {text : List Char} (token : String) (h : text ≠ []) :
    clauses token text = (clause token text).bind fun first =>
      (clauses token first.2).map (first.1 :: ·) := by
  rw [clauses, if_neg (by rwa [List.isEmpty_iff])]
  split
  · next e he =>
      rw [he]
      rfl
  · next a rest hok =>
      rw [hok]
      rfl

theorem clauses_of_clause {token : String} {text rest : List Char} {a : Adjustment}
    (h : clause token text = .ok (a, rest)) :
    clauses token text = (clauses token rest).map (a :: ·) := by
  have hlength := length_of_clause h
  have hne : text ≠ [] := by
    rintro rfl
    exact Nat.not_lt_zero _ hlength
  rw [clauses_of_ne_nil token hne, h]
  rfl

theorem stops_flatMap (cs : List Clause) : Stops (cs.flatMap Clause.chars) := by
  intro x hx
  cases cs with
  | nil => cases hx
  | cons c cs =>
      rw [List.flatMap_cons, Clause.chars, List.cons_append, List.head?_cons, Option.mem_some] at hx
      rw [← hx, Clause.sign]
      cases c.minus <;> decide

theorem exists_clauses_of_clauses {token : String} {text : List Char} {as : List Adjustment}
    (h : clauses token text = .ok as) :
    ∃ cs : List Clause, (∀ c ∈ cs, c.Legal) ∧ text = cs.flatMap Clause.chars ∧
      as.map Adjustment.parts = cs.map Clause.parts := by
  fun_induction clauses token text generalizing as with
  | case1 text hempty =>
      cases h
      refine ⟨[], ?_, List.isEmpty_iff.1 hempty, rfl⟩
      intro c hc
      cases hc
  | case2 text hne e he => cases h
  | case3 text hne a rest hclause ih =>
      obtain ⟨c, hc, hparts, htext, -⟩ := exists_clause_of_clause hclause
      cases hrest : clauses token rest with
      | error e =>
          rw [hrest] at h
          cases h
      | ok others =>
          rw [hrest] at h
          cases h
          obtain ⟨cs, hcs, hflat, hothers⟩ := ih hrest
          refine ⟨c :: cs, List.forall_mem_cons.2 ⟨hc, hcs⟩, ?_, ?_⟩
          · rw [htext, hflat, List.flatMap_cons]
          · rw [List.map_cons, List.map_cons, hparts, hothers]

theorem clauses_flatMap (token : String) {cs : List Clause} (h : ∀ c ∈ cs, c.Legal) :
    ∃ as, clauses token (cs.flatMap Clause.chars) = .ok as ∧
      as.map Adjustment.parts = cs.map Clause.parts := by
  induction cs with
  | nil =>
      refine ⟨[], ?_, rfl⟩
      rw [List.flatMap_nil, clauses]
      rfl
  | cons c cs ih =>
      obtain ⟨hc, hcs⟩ := List.forall_mem_cons.1 h
      obtain ⟨as, has, hparts⟩ := ih hcs
      obtain ⟨a, ha, haparts⟩ := hc.clause_eq token (stops_flatMap cs)
      refine ⟨a :: as, ?_, ?_⟩
      · rw [List.flatMap_cons, clauses_of_clause ha, has]
        rfl
      · rw [List.map_cons, List.map_cons, haparts, hparts]

theorem flatMap_chars_injective {cs ds : List Clause} (hcs : ∀ c ∈ cs, c.Legal)
    (hds : ∀ d ∈ ds, d.Legal) (h : cs.flatMap Clause.chars = ds.flatMap Clause.chars) :
    cs = ds := by
  induction cs generalizing ds with
  | nil =>
      cases ds with
      | nil => rfl
      | cons d ds => cases h
  | cons c cs ih =>
      cases ds with
      | nil => cases h
      | cons d ds =>
          obtain ⟨hc, hcs⟩ := List.forall_mem_cons.1 hcs
          obtain ⟨hd, hds⟩ := List.forall_mem_cons.1 hds
          obtain ⟨hfirst, hrest⟩ := hc.append_injective hd (stops_flatMap cs) (stops_flatMap ds) h
          rw [hfirst, ih hcs hds hrest]

theorem parts_injective {as bs : List Adjustment}
    (h : as.map Adjustment.parts = bs.map Adjustment.parts) : as = bs := by
  refine (List.map_inj_right ?_).1 h
  intro a b hab
  obtain ⟨hamount, hunit⟩ := Prod.mk.inj hab
  cases a
  cases b
  rw [Adjustment.mk.injEq]
  exact ⟨Int64.toInt_inj.1 hamount, hunit⟩

end BracketToken.DateToken
