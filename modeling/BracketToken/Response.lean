import BracketToken.DateRange
import BracketToken.Json
import BracketToken.StringToken.Sample

/-!
Responses: what a front end answers for one token.

A response holds a value or a message. Every message opens with the same words. A blank token is
refused before any reader sees it, and then nothing is logged.
-/

namespace BracketToken

open Text Calendar

inductive TokenValue
  | text (text : String)
  | range (range : DateRange)
  deriving DecidableEq

inductive Response
  | parsed (value : TokenValue)
  | error (message : String)
  deriving DecidableEq

/-- The ends of a range under the keys `Start` and `End`. -/
def DateRange.json (r : DateRange) : Json :=
  .object [("Start", .string r.start.canonical), ("End", .string r.finish.canonical)]

/-- A text as it is, and a range as an object. -/
def TokenValue.json : TokenValue → Json
  | text t => .string t
  | range r => r.json

namespace Response

/-- A reason as responses report it: trimmed, and opening with the words of `malformedToken`. -/
def withOpening (reason : String) : String :=
  let reason := trim reason.toList
  if reason.isEmpty then malformedToken
  else if malformedToken.toList.isPrefixOf reason then .ofList reason
  else malformedToken ++ ": " ++ .ofList reason

def refusal (reason : String) : Response := error (withOpening reason)

def blankReason : String := "token is required"

/-- 200 for a value and 400 for a message. -/
def status : Response → Nat
  | parsed _ => 200
  | error _ => 400

def succeeds : Response → Bool
  | parsed _ => true
  | error _ => false

/-- An object with one key, which tells a value from a message. -/
def json : Response → Json
  | parsed value => .object [("ParsedToken", value.json)]
  | error message => .object [("Error", .string message)]

/-- The start of a token, as events show it. -/
def excerpt (token : String) : String := .ofList (token.toList.take 50)

def isBlankToken (token : String) : Bool := (trim token.toList).isEmpty

def ofDate (token : String) (now : Instant) : Logged Response :=
  if isBlankToken token then ⟨[], refusal blankReason⟩
  else
    let run := DateToken.evaluate token now
    match run.outcome with
    | .ok instant =>
      ⟨run.events ++ [.dateTokenParsed (excerpt token)], parsed (.text instant.canonical)⟩
    | .error e => ⟨run.events ++ [.dateTokenRejected (excerpt token) e], refusal e.message⟩

def ofRange (token : String) : Logged Response :=
  if isBlankToken token then ⟨[], refusal blankReason⟩
  else
    let run := DateRange.read token
    match run.outcome with
    | .ok range => ⟨run.events, parsed (.range range)⟩
    | .error e => ⟨run.events ++ [.rangeTokenRejected (excerpt token) e], refusal e.message⟩

/-- The answer for a string token drawn from a source, and the state of the source after it. -/
def ofString {σ : Type} (source : StringToken.IndexSource σ) (token : String) (s : σ) :
    Logged Response × σ :=
  if isBlankToken token then (⟨[], refusal blankReason⟩, s)
  else
    let (run, s) := StringToken.drawText source token s
    match run.outcome with
    | .ok text => (⟨run.events ++ [.stringGenerated (excerpt token)], parsed (.text text)⟩, s)
    | .error e =>
      (⟨run.events ++ [.stringTokenRejected (excerpt token) e], refusal e.message⟩, s)

end Response

end BracketToken
