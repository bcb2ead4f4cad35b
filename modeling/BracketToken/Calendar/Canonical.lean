import BracketToken.Calendar.Instant
import BracketToken.Text.Blank
import BracketToken.Text.Numeral

/-!
The canonical text of dates and instants, `2024-01-31` and `2024-01-31 00:00:00Z`, and readers.

A reader is laxer than the text that is written: it skips blanks before a number, takes numbers
without their leading zeros and does without the blank in the middle.
-/

namespace BracketToken.Calendar

open Numeral Text

def hasPlainYear (year : Int) : Bool := 0 ≤ year && year ≤ 9999

/-- Four digits, and outside 0 to 9999 a sign and at least four digits. -/
def yearText (year : Int) : List Char :=
  if hasPlainYear year then padded 4 year.toNat
  else (if year < 0 then '-' else '+') :: padded 4 year.natAbs

def Date.chars (d : Date) : List Char :=
  yearText d.year ++ '-' :: padded 2 d.month ++ '-' :: padded 2 d.day

def TimeOfDay.chars (t : TimeOfDay) : List Char :=
  padded 2 t.hour ++ ':' :: padded 2 t.minute ++ ':' :: padded 2 t.clockSecond

/-- The canonical text of an instant; what is less than a second is dropped. -/
def Instant.chars (i : Instant) : List Char := i.date.chars ++ ' ' :: i.time.chars ++ ['Z']

/-- The text of a date, as in `2024-01-31`. -/
def Date.text (d : Date) : String := .ofList d.chars

/-- The canonical text of an instant, as in `2024-01-31 00:00:00Z`. -/
def Instant.canonical (i : Instant) : String := .ofList i.chars

namespace Reading

/-- A number and what follows it. -/
abbrev Read (α : Type) := Option (α × List Char)

/-- The first digits, at most `limit` of them; there has to be one. -/
def digits? (limit : Option Nat) (text : List Char) : Read Nat :=
  let run := text.takeWhile Char.isDigit
  let digits := match limit with
    | none => run
    | some most => run.take most
  if digits.isEmpty then none else some (value digits, text.drop digits.length)

/-- A number of one or two digits, after blanks. -/
def short? (text : List Char) : Read Nat := digits? (some 2) (trimStart text)

/-- A year, after blanks: up to four digits, or a sign and any number of digits. -/
def year? (text : List Char) : Read Int :=
  match trimStart text with
  | '-' :: rest => (digits? none rest).map fun r => (-(r.1 : Int), r.2)
  | '+' :: rest => (digits? none rest).map fun r => ((r.1 : Int), r.2)
  | rest => (digits? (some 4) rest).map fun r => ((r.1 : Int), r.2)

def mark? (c : Char) : List Char → Option (List Char)
  | d :: rest => if d = c then some rest else none
  | [] => none

end Reading

open Reading

/-- Reads an instant; nothing may follow the `Z`. -/
def Instant.ofChars? (text : List Char) : Option Instant := do
  let (year, text) ← year? text
  let text ← mark? '-' text
  let (month, text) ← short? text
  let text ← mark? '-' text
  let (day, text) ← short? text
  let (hour, text) ← short? text
  let text ← mark? ':' text
  let (minute, text) ← short? text
  let text ← mark? ':' text
  let (second, text) ← short? text
  let text ← mark? 'Z' text
  guard text.isEmpty
  let date ← Date.of? year month day
  let time ← TimeOfDay.ofClock? hour minute second
  return ⟨date, time⟩

/-- Reads a date; blanks may stand before every part and at the end. -/
def Date.ofChars? (text : List Char) : Option Date := do
  let (year, text) ← year? text
  let text ← mark? '-' (trimStart text)
  let (month, text) ← short? text
  let text ← mark? '-' (trimStart text)
  let (day, text) ← short? text
  guard (trimStart text).isEmpty
  Date.of? year month day

end BracketToken.Calendar
