/-!
Alphabets and the pools that they contribute.
-/

namespace BracketToken.StringToken

inductive Alphabet
  | alpha
  | numeric
  | punctuation
  | special
  deriving DecidableEq

namespace Alphabet

def all : List Alphabet := [alpha, numeric, punctuation, special]

def name : Alphabet → String
  | alpha => "ALPHA"
  | numeric => "NUMERIC"
  | punctuation => "PUNCTUATION"
  | special => "SPECIAL"

def chars : Alphabet → String
  | alpha => "ABCDEFGHIJKLMNOPQRSTUVWXYZabcdefghijklmnopqrstuvwxyz"
  | numeric => "0123456789"
  | punctuation => ".,!?;:"
  | special => "!@#$%^&*()_+[]\x7b\x7d|;:,.<>?"

def ofName? (word : List Char) : Option Alphabet := all.find? (·.name.toList = word)

theorem ofName?_name (c : Alphabet) : ofName? c.name.toList = some c := by
  cases c <;> decide

theorem chars_ne_nil (c : Alphabet) : c.chars.toList ≠ [] := by
  cases c <;> decide

end Alphabet

/-- The characters of the alphabets one after another. What alphabets repeat or share is kept, so it
weighs more in a draw. -/
def poolOf (alphabets : List Alphabet) : List Char := alphabets.flatMap (·.chars.toList)

end BracketToken.StringToken
