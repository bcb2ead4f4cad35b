import BracketToken.Text.Numeral
import BracketToken.Toml.Basic

/-!
Quoted TOML text: basic and literal strings, on one line or on several.
-/

namespace BracketToken.Toml

/-- A character that comments and strings take as it is. -/
def isPlain (c : Char) : Bool := c = '\t' || (' ' ≤ c && c ≠ '\x7f')

def isSpace (c : Char) : Bool := c = ' ' || c = '\t'

def pastBreak? : List Char → Option (List Char)
  | '\n' :: rest => some rest
  | '\r' :: '\n' :: rest => some rest
  | _ => none

/-- The character with a hexadecimal code point; surrogates are none. -/
def codePoint? (digits : List Char) : Option Char :=
  let n := Numeral.basedValue 16 digits
  if h : digits.all (Numeral.isDigitOf 16) ∧ n.isValidChar then some (Char.ofNatAux n h.2)
  else none

/-- The character that an escape with `width` hexadecimal digits stands for. -/
def hexEscape? (width : Nat) (text : List Char) : Option (Char × List Char) :=
  if text.length < width then none
  else (codePoint? (text.take width)).map fun c => (c, text.drop width)

/-- The character of an escape, after its backslash. -/
def escape? : List Char → Option (Char × List Char)
  | 'b' :: rest => some ('\x08', rest)
  | 't' :: rest => some ('\t', rest)
  | 'n' :: rest => some ('\n', rest)
  | 'f' :: rest => some ('\x0c', rest)
  | 'r' :: rest => some ('\r', rest)
  | 'e' :: rest => some ('\x1b', rest)
  | '"' :: rest => some ('"', rest)
  | '\\' :: rest => some ('\\', rest)
  | 'x' :: rest => hexEscape? 2 rest
  | 'u' :: rest => hexEscape? 4 rest
  | 'U' :: rest => hexEscape? 8 rest
  | _ => none

/-- What an unfinished string has so far, in reverse, with the text after its end. -/
abbrev Quoting := Except Error (List Char × List Char)

def basicFrom : Nat → List Char → List Char → Quoting
  | 0, _, text => .error (.unexpected text)
  | _, _, [] => .error (.unexpected [])
  | fuel + 1, done, c :: rest =>
    if c = '"' then .ok (done.reverse, rest)
    else if c = '\\' then
      match escape? rest with
      | some (e, rest) => basicFrom fuel (e :: done) rest
      | none => .error .badEscape
    else if isPlain c then basicFrom fuel (c :: done) rest
    else .error (.unexpected (c :: rest))

def pastBlankLines : List Char → List Char
  | ' ' :: rest => pastBlankLines rest
  | '\t' :: rest => pastBlankLines rest
  | '\n' :: rest => pastBlankLines rest
  | '\r' :: '\n' :: rest => pastBlankLines rest
  | text => text

/-- What follows a backslash that ends a line: the next text that is no blank and no break. -/
def pastFold? (text : List Char) : Option (List Char) :=
  (pastBreak? (text.dropWhile isSpace)).map pastBlankLines

/-- The text after three quotes and up to two more, which belong to the string. -/
def closing? (quote : Char) (text : List Char) : Option (List Char × List Char) :=
  let quotes := (text.take 5).takeWhile (· = quote)
  if quotes.length < 3 then none
  else some (quotes.drop 3, text.drop quotes.length)

/-- A basic string of several lines after its opening quotes. -/
def basicLinesFrom : Nat → List Char → List Char → Quoting
  | 0, _, text => .error (.unexpected text)
  | _, _, [] => .error (.unexpected [])
  | fuel + 1, done, c :: rest =>
    match closing? '"' (c :: rest) with
    | some (last, rest) => .ok (done.reverse ++ last, rest)
    | none =>
      if c = '\\' then
        match pastFold? rest, escape? rest with
        | some rest, _ => basicLinesFrom fuel done rest
        | none, some (e, rest) => basicLinesFrom fuel (e :: done) rest
        | none, none => .error .badEscape
      else if c = '\n' || isPlain c then basicLinesFrom fuel (c :: done) rest
      else if (pastBreak? (c :: rest)).isSome then basicLinesFrom fuel (c :: done) rest
      else .error (.unexpected (c :: rest))

def literalLinesFrom : Nat → List Char → List Char → Quoting
  | 0, _, text => .error (.unexpected text)
  | _, _, [] => .error (.unexpected [])
  | fuel + 1, done, c :: rest =>
    match closing? '\'' (c :: rest) with
    | some (last, rest) => .ok (done.reverse ++ last, rest)
    | none =>
      if c = '\n' || isPlain c || (pastBreak? (c :: rest)).isSome then
        literalLinesFrom fuel (c :: done) rest
      else .error (.unexpected (c :: rest))

def literal (text : List Char) : Quoting :=
  match text.span fun c => isPlain c && c ≠ '\'' with
  | (body, '\'' :: rest) => .ok (body, rest)
  | (_, rest) => .error (.unexpected rest)

/-- A line break right after the opening quotes is no part of the string. -/
def pastFirstBreak (text : List Char) : List Char := (pastBreak? text).getD text

/-- A string on one line, if one starts here. -/
def line? : List Char → Option Quoting
  | '"' :: rest => some (basicFrom (rest.length + 1) [] rest)
  | '\'' :: rest => some (literal rest)
  | _ => none

def quoted? : List Char → Option Quoting
  | '"' :: '"' :: '"' :: rest => some (basicLinesFrom (rest.length + 1) [] (pastFirstBreak rest))
  | '\'' :: '\'' :: '\'' :: rest =>
    some (literalLinesFrom (rest.length + 1) [] (pastFirstBreak rest))
  | text => line? text

/-- Takes over what a string reader found. -/
def takeQuoted (found : Quoting) : Scan String := do
  let (body, rest) ← found
  set rest
  return .ofList body

end BracketToken.Toml
