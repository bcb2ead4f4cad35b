import BracketToken.StringToken.Alphabet

/-!
What a string token asks for: alphabets, a line length and a number of lines.

A request carries the proofs that make it safe to draw: there is a character to draw, there is a
line, and the text stays within the limit.
-/

namespace BracketToken.StringToken

/-- The most characters that a text may have, the line separators included. -/
def maxSize : Nat := 1048576

def lineBreak : List Char := ['\r', '\n']

inductive LineLength
  /-- This many characters, each drawn from the pool. -/
  | chars (count : Nat)
  /-- The pool as it is. -/
  | all
  deriving DecidableEq

/-- The number of characters of a line over a pool of `poolSize`. -/
def LineLength.size (poolSize : Nat) : LineLength → Nat
  | chars count => count
  | all => poolSize

/-- The number of characters of `lines` lines of `lineSize` each, with breaks between them. -/
def textSize (lineSize lines : Nat) : Nat := lineSize * lines + lineBreak.length * (lines - 1)

/-- A request that can be met. -/
structure Request where
  alphabets : List Alphabet
  length : LineLength
  lines : Nat
  pool_ne : poolOf alphabets ≠ []
  lines_pos : 0 < lines
  size_le : textSize (length.size (poolOf alphabets).length) lines ≤ maxSize
  deriving DecidableEq

namespace Request

def pool (r : Request) : List Char := poolOf r.alphabets

def lineSize (r : Request) : Nat := r.length.size r.pool.length

end Request

end BracketToken.StringToken
