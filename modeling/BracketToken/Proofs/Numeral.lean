import BracketToken.Text.Numeral
import Mathlib.Algebra.Group.Nat.Defs

/-!
Strings of digits and the numbers that machine words hold.
-/

namespace BracketToken.Numeral

/-- A non-empty string of ASCII digits, with or without leading zeros. -/
def IsDigits (text : List Char) : Prop := text ≠ [] ∧ ∀ c ∈ text, c.isDigit = true

theorem isNumeral_eq_true_iff {text : List Char} : isNumeral text = true ↔ IsDigits text := by
  simp only [isNumeral, IsDigits, Bool.and_eq_true, Bool.not_eq_true', List.isEmpty_eq_false_iff,
    List.all_eq_true, ne_eq]

theorem value_cons (c : Char) (rest : List Char) :
    value (c :: rest) = 10 ^ rest.length * (c.toNat - '0'.toNat) + value rest := by
  rw [value, Nat.ofDigitChars_cons, Nat.ofDigitChars_eq_ofDigitChars_zero, Nat.mul_zero,
    Nat.zero_add]
  rfl

theorem toNat_mem_of_isDigit {c : Char} (h : c.isDigit = true) : 48 ≤ c.toNat ∧ c.toNat ≤ 57 := by
  simp only [Char.isDigit, Bool.and_eq_true, decide_eq_true_eq] at h
  exact h

/-- A digit in front that is no zero counts at its place. -/
theorem pow_le_value_cons {c : Char} {rest : List Char} (hc : c.isDigit = true) (h0 : c ≠ '0') :
    10 ^ rest.length ≤ value (c :: rest) := by
  have hzero : '0'.toNat = 48 := rfl
  have hlo := (toNat_mem_of_isDigit hc).1
  have hne : c.toNat ≠ 48 := fun h => h0 (Char.toNat_inj.1 h)
  have hdigit : 10 ^ rest.length * 1 ≤ 10 ^ rest.length * (c.toNat - '0'.toNat) :=
    Nat.mul_le_mul_left _ (by omega)
  rw [value_cons]
  omega

theorem word64?_eq_some_iff {n m : Nat} : word64? n = some m ↔ m = n ∧ n ≤ 18446744073709551615 := by
  unfold word64?
  split
  · next h => simp only [h, Option.some.injEq, and_true, eq_comm]
  · next h => simp only [h, reduceCtorEq, and_false]

theorem word64?_eq_none_iff {n : Nat} : word64? n = none ↔ 18446744073709551615 < n := by
  rw [word64?]
  split <;> simp <;> omega

theorem int64?_eq_some_iff {n : Int} {w : Int64} : int64? n = some w ↔ w.toInt = n := by
  constructor
  · exact toInt_of_int64?
  · rintro rfl
    have hlo := w.le_toInt
    have hhi := w.toInt_lt
    rw [int64?, if_pos (by omega), Int64.ofInt_toInt]

theorem int64?_eq_none_iff {n : Nat} : int64? n = none ↔ 9223372036854775807 < n := by
  rw [int64?]
  split <;> simp <;> omega

theorem exists_int64 {n : Int} (h : -9223372036854775808 ≤ n ∧ n ≤ 9223372036854775807) :
    ∃ w : Int64, w.toInt = n :=
  ⟨Int64.ofInt n, Int64.toInt_ofInt_of_le h.1 (by omega)⟩

theorem int32?_eq_some_iff {n m : Int} :
    int32? n = some m ↔ m = n ∧ -2147483648 ≤ n ∧ n ≤ 2147483647 := by
  unfold int32?
  split
  · next h => simp only [h, Option.some.injEq, and_self, and_true, eq_comm]
  · next h => simp only [h, reduceCtorEq, and_false]

/-- Words add up without a carry where a word holds their sum. -/
theorem toInt_add_of_mem {v w : Int64}
    (h : -9223372036854775808 ≤ v.toInt + w.toInt ∧ v.toInt + w.toInt ≤ 9223372036854775807) :
    (v + w).toInt = v.toInt + w.toInt := by
  rw [Int64.toInt_add]
  exact Int.bmod_eq_of_le (by omega) (by omega)

/-- Only the least word has no opposite. -/
theorem toInt_neg_of_lt {w : Int64} (h : -9223372036854775808 < w.toInt) :
    (-w).toInt = -w.toInt := by
  have hlt := w.toInt_lt
  rw [Int64.toInt_neg]
  exact Int.bmod_eq_of_le (by omega) (by omega)

theorem toInt_neg_of_nonneg {w : Int64} (h : 0 ≤ w.toInt) : (-w).toInt = -w.toInt :=
  toInt_neg_of_lt (by omega)

end BracketToken.Numeral
