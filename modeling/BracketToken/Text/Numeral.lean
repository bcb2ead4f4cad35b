/-!
Decimal numerals, and the machine words that numbers have to fit.

A numeral is a list of ASCII digits. Its value is a natural number of any size; whether a word can
hold it is asked separately, so that no step wraps.
-/

namespace BracketToken.Numeral

/-- The number that the digits denote; leading zeros do not count. -/
def value (digits : List Char) : Nat := Nat.ofDigitChars 10 digits 0

/-- The digits of a number, without leading zeros. -/
def decimal (n : Nat) : List Char := Nat.toDigits 10 n

/-- The digits of a number, filled up with zeros to the width. -/
def padded (width n : Nat) : List Char := (decimal n).leftpad width '0'

/-- A number with its sign; zero is positive. -/
def signed (n : Int) : List Char := (if n < 0 then '-' else '+') :: decimal n.natAbs

/-- A number that carries a sign only when it is negative. -/
def plain (n : Int) : List Char := if n < 0 then signed n else decimal n.natAbs

/-- A non-empty run of digits and nothing else. -/
def isNumeral (text : List Char) : Bool := !text.isEmpty && text.all Char.isDigit

/-- Reading undoes writing. -/
theorem value_decimal (n : Nat) : value (decimal n) = n :=
  Nat.ofDigitChars_toDigits (by decide) (by decide)

/-- A number is written in digits only. -/
theorem isDigit_of_mem_decimal {n : Nat} {c : Char} (h : c ∈ decimal n) : c.isDigit = true :=
  Nat.isDigit_of_mem_toDigits (by decide) (by decide) h

/-- The value of a digit in bases up to sixteen, with letters of either case. -/
def digitValue (c : Char) : Nat :=
  if c.isDigit then c.toNat - '0'.toNat else c.toLower.toNat - 'a'.toNat + 10

def isDigitOf (base : Nat) (c : Char) : Bool :=
  (c.isDigit || ('a' ≤ c.toLower && c.toLower ≤ 'f')) && digitValue c < base

/-- The number that the digits denote in a base up to sixteen. -/
def basedValue (base : Nat) (digits : List Char) : Nat :=
  digits.foldl (fun n c => n * base + digitValue c) 0

def int64? (n : Int) : Option Int64 :=
  if -9223372036854775808 ≤ n ∧ n ≤ 9223372036854775807 then some (Int64.ofInt n) else none

/-- The number itself, if a signed 32-bit word holds it. -/
def int32? (n : Int) : Option Int := if -2147483648 ≤ n ∧ n ≤ 2147483647 then some n else none

/-- The number itself, if an unsigned 64-bit word holds it. -/
def word64? (n : Nat) : Option Nat := if n ≤ 18446744073709551615 then some n else none

/-- A word holds the number itself. -/
theorem toInt_of_int64? {n : Int} {w : Int64} (h : int64? n = some w) : w.toInt = n := by
  unfold int64? at h
  split at h
  · next hn =>
    cases h
    exact Int64.toInt_ofInt_of_le hn.1 (by omega)
  · cases h

/-- A word holds the number itself. -/
theorem eq_of_word64? {n m : Nat} (h : word64? n = some m) : m = n := by
  unfold word64? at h
  split at h <;> simp_all

end BracketToken.Numeral
