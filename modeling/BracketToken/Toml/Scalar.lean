import BracketToken.Calendar.Date
import BracketToken.Text.Numeral
import BracketToken.Toml.Basic

/-!
Unquoted TOML values: booleans, integers, floats, dates and times.

A value is one word, except that a blank may stand between a date and a time.
-/

namespace BracketToken.Toml

open Numeral

/-- Whether every underscore stands between characters that can be digits. The start of the first
group may be a sign, and of the last group only the first character is looked at. -/
def isSpaced (isDigit : Char → Bool) (text : List Char) : Bool :=
  match text.splitOn '_' with
  | first :: second :: rest =>
    let endsWell := fun group : List Char => group.length ≤ 1 || group.getLast?.any isDigit
    let groups := first :: second :: rest
    groups.all (!·.isEmpty) && groups.tail.all (·.head?.any isDigit) && groups.dropLast.all endsWell
  | _ => true

def squeezed (text : List Char) : List Char := text.filter (· ≠ '_')

def splitSign : List Char → Bool × List Char
  | '-' :: rest => (true, rest)
  | '+' :: rest => (false, rest)
  | text => (false, text)

/-- The base that a number names, and its digits. -/
def basePrefix? : List Char → Option (Nat × List Char)
  | '0' :: 'x' :: digits => some (16, digits)
  | '0' :: 'o' :: digits => some (8, digits)
  | '0' :: 'b' :: digits => some (2, digits)
  | _ => none

/-- Whether the text passes for a number that names its base, though it may lack its digits. -/
def isBased (base : Nat) (digits : List Char) : Bool :=
  digits.all (fun c => isDigitOf base c || c = '_') &&
    isSpaced (isDigitOf base) digits && digits ≠ ['_']

/-- Whether the text passes for a decimal integer. Where it has underscores, what follows the first
of them is judged as if digits went up to `f`. -/
def isDecimal (text : List Char) : Bool :=
  let (_, digits) := splitSign text
  let rest := digits.dropWhile Char.isDigit
  if digits.length > 1 && digits.head? = some '0' then false
  else if rest.isEmpty then !digits.isEmpty
  else rest.head? = some '_' && isSpaced (isDigitOf 16) text

/-- The integer that a decimal denotes, if its characters are digits. -/
def decimal? (text : List Char) : Option Int :=
  let (minus, digits) := splitSign (squeezed text)
  if isNumeral digits then some (if minus then -(value digits : Int) else value digits) else none

/-- Whether a number of 128 bits holds the integer. -/
def isWord (n : Int) : Bool := -(Nat.pow 2 127 : Int) ≤ n && n < (Nat.pow 2 128 : Int)

/-- The least magnitude that rounds beyond the 64-bit floats. -/
def floatLimit : Nat := Nat.pow 2 1024 - Nat.pow 2 970

/-- Whether `digits * 10 ^ scale` rounds beyond the 64-bit floats. The first two cases keep the
powers small. -/
def overflows (digits : List Char) (scale : Int) : Bool :=
  if value digits = 0 then false
  else if scale > 400 then true
  else if scale + digits.length < 300 then false
  else if 0 ≤ scale then floatLimit ≤ value digits * Nat.pow 10 scale.toNat
  else floatLimit * Nat.pow 10 (-scale).toNat ≤ value digits

/-- The digits and underscores at the start, and what follows them; there has to be a digit. -/
def digitRun? (text : List Char) : Option (List Char × List Char) :=
  let run := text.takeWhile fun c => c.isDigit || c = '_'
  if run.any Char.isDigit then some (squeezed run, text.drop run.length) else none

/-- The digits of a whole part, which starts with no zero that could be left out. -/
def wholePart? (text : List Char) : Option (List Char × List Char) := do
  let (digits, rest) ← digitRun? text
  guard (digits.length ≤ 1 || text.head? ≠ some '0')
  return (digits, rest)

def fraction? : List Char → Option (List Char × List Char)
  | '.' :: text => digitRun? text
  | text => some ([], text)

/-- The exponent, if there is one; nothing may follow. -/
def exponent? : List Char → Option Int
  | [] => some 0
  | mark :: text => do
    guard (mark = 'e' || mark = 'E')
    let (minus, text) := splitSign text
    let (digits, rest) ← digitRun? text
    guard rest.isEmpty
    return if minus then -(value digits : Int) else value digits

/-- The digits of a float and the power of ten that they count. -/
def float? (text : List Char) : Option (List Char × Int) := do
  let (_, unsigned) := splitSign text
  let (whole, rest) ← wholePart? unsigned
  guard !rest.isEmpty
  let (fraction, rest) ← fraction? rest
  let exponent ← exponent? rest
  guard (isSpaced Char.isDigit text)
  return (whole ++ fraction, exponent - fraction.length)

/-- Whether the text is one of the floats without digits. -/
def isSpecialFloat (text : List Char) : Bool :=
  let (_, word) := splitSign text
  word = "inf".toList || word = "nan".toList

/-- A number of exactly `width` digits, and the text after it. -/
def fixed? (width : Nat) (text : List Char) : Option (Nat × List Char) :=
  let digits := text.take width
  if digits.length = width && isNumeral digits then some (value digits, text.drop width) else none

def pastAny? (marks : List Char) : List Char → Option (List Char)
  | c :: rest => if marks.contains c then some rest else none
  | [] => none

def pastDate? (text : List Char) : Option (List Char) := do
  let (year, text) ← fixed? 4 text
  let text ← pastAny? ['-'] text
  let (month, text) ← fixed? 2 text
  let text ← pastAny? ['-'] text
  let (day, text) ← fixed? 2 text
  guard (1 ≤ month && month ≤ 12 && 1 ≤ day && day ≤ Calendar.monthLength year month)
  return text

/-- What follows the seconds of a time and their fraction. -/
def pastSeconds? (text : List Char) : Option (List Char) := do
  let (second, text) ← fixed? 2 text
  guard (second ≤ 60)
  match text with
  | '.' :: rest =>
    let digits := rest.takeWhile Char.isDigit
    if digits.isEmpty then none else some (rest.drop digits.length)
  | _ => some text

/-- What follows a time; the seconds may be left out. -/
def pastTime? (text : List Char) : Option (List Char) := do
  let (hour, text) ← fixed? 2 text
  let text ← pastAny? [':'] text
  let (minute, text) ← fixed? 2 text
  guard (hour ≤ 23 && minute ≤ 59)
  match text with
  | ':' :: rest => pastSeconds? rest
  | _ => some text

def isOffset : List Char → Bool
  | [] => false
  | sign :: text =>
    if sign = 'Z' || sign = 'z' then text.isEmpty
    else if sign = '+' || sign = '-' then
      match fixed? 2 text with
      | some (hour, ':' :: rest) =>
        match fixed? 2 rest with
        | some (minute, []) => hour ≤ 23 && minute ≤ 59
        | _ => false
      | _ => false
    else false

/-- Whether the text is a date, a time, or both with or without an offset. -/
def isMoment (text : List Char) : Bool :=
  match pastDate? text with
  | some [] => true
  | some rest =>
    match (pastAny? ['T', 't', ' '] rest).bind pastTime? with
    | some rest => rest.isEmpty || isOffset rest
    | none => false
  | none => pastTime? text = some []

/-- An integer, if it is given and held. -/
def Value.ofInteger (word : List Char) (n : Option Int) : Value :=
  match n with
  | some n => if isWord n then .integer n else .unheld (.ofList word)
  | none => .unheld (.ofList word)

def number? (word : List Char) : Option Value :=
  match basePrefix? word with
  | some (base, digits) =>
    if isBased base digits then
      let n := if digits.isEmpty then none else some (basedValue base (squeezed digits) : Int)
      some (.ofInteger word n)
    else none
  | none =>
    match float? word with
    | some (digits, scale) =>
      some (if overflows digits scale then .unheld (.ofList word) else .float (.ofList word))
    | none =>
      if word.any (fun c => c = '.' || c = 'e' || c = 'E') then none
      else if isDecimal word then some (.ofInteger word (decimal? word)) else none

def scalar? (word : List Char) : Option Value :=
  if word = "true".toList then some (.boolean true)
  else if word = "false".toList then some (.boolean false)
  else if isSpecialFloat word then some (.float (.ofList word))
  else
    match number? word with
    | some value => some value
    | none => if isMoment word then some (.moment (.ofList word)) else none

/-- The characters that end an unquoted value. -/
def scalarEnds : List Char :=
  ['=', ',', '[', ']', '\x7b', '\x7d', ' ', '\t', '#', '\r', '\n']

def isScalarChar (c : Char) : Bool := !scalarEnds.contains c

/-- The word at the start of the text. A date takes a time along that follows after a blank. -/
def scalarWord (text : List Char) : List Char :=
  let word := text.takeWhile isScalarChar
  match pastDate? word, text.drop word.length with
  | some [], ' ' :: c :: rest =>
    if c.isDigit then word ++ ' ' :: (c :: rest).takeWhile isScalarChar else word
  | _, _ => word

def scalar : Scan Value := do
  let text ← get
  let word := scalarWord text
  if word.isEmpty then refuse
  else
    match scalar? word with
    | none => throw (.badValue (.ofList word))
    | some v => do
      set (text.drop word.length)
      return v

end BracketToken.Toml
