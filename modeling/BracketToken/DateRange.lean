import BracketToken.DateToken.Resolution

/-!
Range tokens: two month boundaries with `<->` between them.

The two ends are taken as they are written; nothing says that the first comes before the second.
Whatever is wrong, the token as a whole is reported as malformed, and what was wrong is logged.
-/

namespace BracketToken

open Calendar

structure DateRange where
  start : Instant
  finish : Instant
  deriving DecidableEq

namespace DateRange

open DateToken

def boundaryInstant (token : String) (body : List Char) : Except Error Instant :=
  ((boundary token body).bind MonthBoundary.date).map Date.midnight

def half (token : String) (body : List Char) : Traced Error Instant :=
  match boundaryInstant token body with
  | .ok instant => pure instant
  | .error e => do
    .log (.rangeHalfRejected token (.ofList body) e)
    .fail (.invalidFormat token)

/-- Reads a range token, the start first. -/
def read (token : String) : Traced Error DateRange := do
  .log (.readingRangeToken token)
  match Bracket.inner? token.toList with
  | none => .fail (.invalidFormat token)
  | some body =>
    match Text.splitArrow body with
    | [start, finish] => do
      let start ← half token start
      let finish ← half token finish
      return ⟨start, finish⟩
    | parts => do
      .log (.rangeNotInHalves token parts.length)
      .fail (.invalidFormat token)

def accepts (token : String) : Bool := (read token).isOk

end DateRange

end BracketToken
