import BracketToken.Proofs.Numeral
import BracketToken.Proofs.Text
import Mathlib.Algebra.GroupWithZero.Nat
import Mathlib.Data.String.Basic

/-!
Numbers written with a fixed number of digits, or with as few as there can be: what is written is
read back, and texts of one width stand in the order of their numbers.
-/

namespace BracketToken

namespace Text

theorem append_lt_append_iff {s s' t t' : List Char} (h : s.length = s'.length) :
    s ++ t < s' ++ t' ↔ s < s' ∨ s = s' ∧ t < t' := by
  induction s generalizing s' with
  | nil =>
      obtain rfl := List.eq_nil_of_length_eq_zero h.symm
      simp
  | cons c s ih =>
      cases s' with
      | nil => cases h
      | cons d s' =>
          rw [List.cons_append, List.cons_append, List.cons_lt_cons_iff, List.cons_lt_cons_iff,
            ih (Nat.succ.inj h), List.cons.injEq]
          tauto

end Text

namespace Numeral

theorem value_lt {text : List Char} (h : ∀ c ∈ text, c.isDigit = true) :
    value text < 10 ^ text.length := by
  induction text with
  | nil => exact Nat.one_pos
  | cons c rest ih =>
      have hzero : '0'.toNat = 48 := rfl
      have hc := toNat_mem_of_isDigit (h c List.mem_cons_self)
      have hrest := ih fun d hd => h d (List.mem_cons_of_mem _ hd)
      have hdigit : 10 ^ rest.length * (c.toNat - 48) ≤ 10 ^ rest.length * 9 :=
        Nat.mul_le_mul_left _ (by omega)
      rw [value_cons, List.length_cons, Nat.pow_succ, hzero]
      omega

/-- What weighs more decides, whatever stands behind it. -/
theorem weigh_lt_iff {r x y a b : Nat} (ha : a < r) (hb : b < r) :
    r * x + a < r * y + b ↔ x < y ∨ x = y ∧ a < b := by
  rcases Nat.lt_trichotomy x y with hlt | rfl | hgt
  · have hstep := Nat.mul_le_mul_left r (Nat.succ_le_of_lt hlt)
    rw [Nat.succ_eq_add_one, Nat.mul_add, Nat.mul_one] at hstep
    omega
  · omega
  · have hstep := Nat.mul_le_mul_left r (Nat.succ_le_of_lt hgt)
    rw [Nat.succ_eq_add_one, Nat.mul_add, Nat.mul_one] at hstep
    omega

/-- Of two texts of one width the one with the smaller number comes first. -/
theorem value_lt_value_iff {s t : List Char} (hs : ∀ c ∈ s, c.isDigit = true)
    (ht : ∀ c ∈ t, c.isDigit = true) (h : s.length = t.length) : value s < value t ↔ s < t := by
  induction s generalizing t with
  | nil =>
      obtain rfl := List.eq_nil_of_length_eq_zero h.symm
      simp
  | cons c s ih =>
      cases t with
      | nil => cases h
      | cons d t =>
          obtain ⟨hc, hs⟩ := List.forall_mem_cons.1 hs
          obtain ⟨hd, ht⟩ := List.forall_mem_cons.1 ht
          have hlength : s.length = t.length := Nat.succ.inj h
          have hzero : '0'.toNat = 48 := rfl
          have hchar : c < d ↔ c.toNat < d.toNat := Iff.rfl
          have hc' := toNat_mem_of_isDigit hc
          have hd' := toNat_mem_of_isDigit hd
          have hlt : c.toNat - 48 < d.toNat - 48 ↔ c.toNat < d.toNat := by omega
          have heq : c.toNat - 48 = d.toNat - 48 ↔ c.toNat = d.toNat := by omega
          have hvt := value_lt ht
          rw [← hlength] at hvt
          rw [value_cons, value_cons, ← hlength, weigh_lt_iff (value_lt hs) hvt, ih hs ht hlength,
            List.cons_lt_cons_iff, hchar, ← Char.toNat_inj, hzero, hlt, heq]

/-- Of one width there is one text for each number. -/
theorem eq_of_value_eq {s t : List Char} (hs : ∀ c ∈ s, c.isDigit = true)
    (ht : ∀ c ∈ t, c.isDigit = true) (hlength : s.length = t.length) (h : value s = value t) :
    s = t := by
  rcases lt_trichotomy s t with hlt | heq | hgt
  · have := (value_lt_value_iff hs ht hlength).2 hlt
    omega
  · exact heq
  · have := (value_lt_value_iff ht hs hlength.symm).2 hgt
    omega

theorem value_append (s t : List Char) : value (s ++ t) = 10 ^ t.length * value s + value t := by
  rw [value, Nat.ofDigitChars_append, Nat.ofDigitChars_eq_ofDigitChars_zero]
  rfl

theorem value_replicate_zero (n : Nat) : value (List.replicate n '0') = 0 := by
  induction n with
  | zero => rfl
  | succ n ih => rw [List.replicate_succ, value_cons, ih]; simp

theorem value_padded (width n : Nat) : value (padded width n) = n := by
  rw [padded, List.leftpad, value_append, value_replicate_zero, value_decimal]
  omega

theorem isDigits_padded (width n : Nat) : IsDigits (padded width n) := by
  constructor
  · rw [padded, List.leftpad, ne_eq, List.append_eq_nil_iff]
    exact fun h => Nat.toDigits_ne_nil h.2
  · intro c hc
    rw [padded, List.leftpad, List.mem_append] at hc
    rcases hc with hc | hc
    · rw [List.eq_of_mem_replicate hc]
      rfl
    · exact isDigit_of_mem_decimal hc

theorem length_padded {width n : Nat} (hwidth : 0 < width) (h : n < 10 ^ width) :
    (padded width n).length = width := by
  have hlength : (decimal n).length ≤ width :=
    (Nat.length_toDigits_le_iff (by decide) hwidth).2 h
  rw [padded, List.length_leftpad]
  exact Nat.max_eq_left hlength

theorem padded_value {digits : List Char} (h : IsDigits digits) :
    padded digits.length (value digits) = digits := by
  have hlength : (padded digits.length (value digits)).length = digits.length :=
    length_padded (List.length_pos_iff.2 h.1) (value_lt h.2)
  exact eq_of_value_eq (isDigits_padded _ _).2 h.2 hlength (value_padded _ _)

/-- The digits without the zeros in front that say nothing. -/
def shortest (digits : List Char) : List Char :=
  match digits.dropWhile (· = '0') with
  | [] => ['0']
  | c :: rest => c :: rest

theorem value_dropWhile_zero (digits : List Char) :
    value (digits.dropWhile (· = '0')) = value digits := by
  induction digits with
  | nil => rfl
  | cons c rest ih =>
      by_cases hc : c = '0'
      · rw [List.dropWhile_cons_of_pos (by simpa using hc), ih, value_cons, hc, Nat.sub_self,
          Nat.mul_zero, Nat.zero_add]
      · rw [List.dropWhile_cons_of_neg (by simpa using hc)]

theorem decimal_value_cons {c : Char} {rest : List Char}
    (h : ∀ d ∈ c :: rest, d.isDigit = true) (hc : c ≠ '0') :
    decimal (value (c :: rest)) = c :: rest := by
  have hlow : 10 ^ rest.length ≤ value (c :: rest) := pow_le_value_cons (h c List.mem_cons_self) hc
  have hle : (decimal (value (c :: rest))).length ≤ (c :: rest).length :=
    (Nat.length_toDigits_le_iff (by decide) (Nat.succ_pos _)).2 (value_lt h)
  have hge : rest.length < (decimal (value (c :: rest))).length := by
    by_cases hnil : rest.length = 0
    · rw [hnil]
      exact List.length_pos_iff.2 Nat.toDigits_ne_nil
    · by_contra hshort
      have hlt := (Nat.length_toDigits_le_iff (by decide) (Nat.pos_of_ne_zero hnil)).1
        (Nat.not_lt.1 hshort)
      omega
  exact eq_of_value_eq (fun d hd => isDigit_of_mem_decimal hd) h (Nat.le_antisymm hle hge)
    (value_decimal _)

/-- Reading and writing leave the shortest digits of a number. -/
theorem decimal_value {digits : List Char} (h : ∀ c ∈ digits, c.isDigit = true) :
    decimal (value digits) = shortest digits := by
  rw [← value_dropWhile_zero, shortest]
  cases hdrop : digits.dropWhile (· = '0') with
  | nil => rfl
  | cons c rest =>
      refine decimal_value_cons (fun d hd => h d ?_) ?_
      · rw [← hdrop] at hd
        exact (List.dropWhile_sublist _).subset hd
      · have hfirst : c ∈ (digits.dropWhile (· = '0')).head? := by
          rw [hdrop]
          rfl
        simpa using Text.of_mem_head?_dropWhile hfirst

theorem padded_inj {width m n : Nat} : padded width m = padded width n ↔ m = n := by
  constructor
  · intro h
    rw [← value_padded width m, h, value_padded]
  · rintro rfl
    rfl

theorem padded_lt_padded_iff {width m n : Nat} (hwidth : 0 < width) (hm : m < 10 ^ width)
    (hn : n < 10 ^ width) : padded width m < padded width n ↔ m < n := by
  rw [← value_lt_value_iff (isDigits_padded width m).2 (isDigits_padded width n).2
    ((length_padded hwidth hm).trans (length_padded hwidth hn).symm), value_padded, value_padded]

end Numeral

end BracketToken
