import BracketToken.Text.Numeral
import BracketToken.Traced

/-!
Reading string tokens: alphabets, a line length, and optionally a number of lines.

The body is taken apart at its hyphens. The first segment that can be a length ends the alphabets;
what follows it is either nothing or `LINES` and a count.
-/

namespace BracketToken.StringToken

open Numeral

/-- The segment that asks for the pool as it is. -/
def wholePool : List Char := "ALL".toList

/-- The segment that announces the number of lines. -/
def linesKeyword : List Char := "LINES".toList

def isLength (segment : List Char) : Bool := segment = wholePool || isNumeral segment

/-- Reads the names of alphabets; the first unknown one decides. -/
def alphabetsOf (token : String) : List (List Char) → Except Error (List Alphabet)
  | [] => .ok []
  | name :: names =>
    match Alphabet.ofName? name with
    | none => .error (.unknownAlphabet (.ofList name) token)
    | some c => (alphabetsOf token names).map (c :: ·)

def lengthOf (token : String) (segment : List Char) : Except Error LineLength :=
  if segment = wholePool then .ok .all
  else if segment.head? = some '0' then .error (.invalidLength token)
  else
    match word64? (value segment) with
    | none => .error (.invalidLength token)
    | some count => .ok (.chars count)

def lineCountOf (token : String) (digits : List Char) : Except Error { n : Nat // 0 < n } :=
  match word64? (value digits) with
  | some (n + 1) => .ok ⟨n + 1, Nat.succ_pos n⟩
  | _ => .error (.invalidLineCount token)

/-- Reads what follows the length. Without a count there is one line. -/
def linesOf (token : String) : List (List Char) → Except Error { n : Nat // 0 < n }
  | [] => .ok ⟨1, Nat.one_pos⟩
  | [keyword, count] =>
    if keyword = linesKeyword && isNumeral count then lineCountOf token count
    else .error (.invalidFormat token)
  | _ => .error (.invalidFormat token)

/-- The size of a text, if no step on the way exceeds a 64-bit word. -/
def textSize? (lineSize lines : Nat) : Option Nat := do
  let breaks ← word64? (lineBreak.length * (lines - 1))
  let chars ← word64? (lineSize * lines)
  word64? (chars + breaks)

/-- A size that fits is the size. -/
theorem textSize_of_textSize? {lineSize lines size : Nat}
    (h : textSize? lineSize lines = some size) : textSize lineSize lines = size := by
  simp only [textSize?, bind, Option.bind_eq_some_iff] at h
  obtain ⟨breaks, hb, chars, hc, hs⟩ := h
  rw [eq_of_word64? hs, eq_of_word64? hb, eq_of_word64? hc, textSize]

/-- The request for these parts. A line that alone exceeds the limit is a bad length; otherwise it
is the number of lines that exceeds it. -/
def request (token : String) (alphabets : List Alphabet) (length : LineLength)
    (lines : { n : Nat // 0 < n }) : Except Error Request :=
  if pool_ne : poolOf alphabets = [] then .error (.emptyPool token)
  else if maxSize < length.size (poolOf alphabets).length then .error (.invalidLength token)
  else
    match hsize : textSize? (length.size (poolOf alphabets).length) lines with
    | none => .error (.invalidLineCount token)
    | some size =>
      if size_le : size ≤ maxSize then
        .ok ⟨alphabets, length, lines, pool_ne, lines.2, textSize_of_textSize? hsize ▸ size_le⟩
      else .error (.invalidLineCount token)

def ofSegments (token : String) (segments : List (List Char)) : Except Error Request :=
  if segments.any List.isEmpty then .error (.invalidFormat token)
  else
    match segments.span (!isLength ·) with
    | ([], _) | (_, []) => .error (.invalidFormat token)
    | (names, length :: rest) => do
      let alphabets ← alphabetsOf token names
      let length ← lengthOf token length
      let lines ← linesOf token rest
      request token alphabets length lines

def read (token : String) : Traced Error Request := do
  .log (.readingStringToken token)
  match Bracket.inner? token.toList with
  | none => .fail (.invalidFormat token)
  | some body => do
    let request ← .ofExcept (ofSegments token (body.splitOn '-'))
    .log (.validatedStringToken token request)
    return request

def accepts (token : String) : Bool := (read token).isOk

end BracketToken.StringToken
