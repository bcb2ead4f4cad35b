import BracketToken.DateToken.Error
import BracketToken.Log.Level
import BracketToken.StringToken.Error
import BracketToken.StringToken.Request

/-!
What the library and the commands log.

An event is its cause and the values that it was logged with. Level, message and fields are read
off it.
-/

namespace BracketToken

open Calendar

/-- One logged step. An `excerpt` is the start of a token. -/
inductive Event
  | readingDateToken (token : String)
  | relativeGrammar (token : String)
  | boundaryGrammar (token : String)
  | appliedAdjustment (adjustment : DateToken.Adjustment) (date : Date)
  | resolvedDateToken (token : String) (instant : Instant)
  | readingRangeToken (token : String)
  | rangeNotInHalves (token : String) (parts : Nat)
  | rangeHalfRejected (token half : String) (error : DateToken.Error)
  | readingStringToken (token : String)
  | validatedStringToken (token : String) (request : StringToken.Request)
  | generatedString (lines : Nat)
  | dateTokenParsed (excerpt : String)
  | dateTokenRejected (excerpt : String) (error : DateToken.Error)
  | rangeTokenRejected (excerpt : String) (error : DateToken.Error)
  | stringGenerated (excerpt : String)
  | stringTokenRejected (excerpt : String) (error : StringToken.Error)
  | settingsFileMissing (path : String)
  | levelOverrideIgnored (value : String)
  | clockPinned (today : Date)
  | doctor (version : String)
  | refusal (message : String)
  | unrecognized (token : String)
  deriving DecidableEq

/-- An instant as log lines show it, as in `2024-02-26 00:00:00 UTC`. -/
def instantField (i : Instant) : String :=
  .ofList (i.date.chars ++ ' ' :: i.time.chars) ++ " UTC"

/-- Alphabet names as log lines show them, as in `["ALPHA", "NUMERIC"]`. -/
def alphabetsField (alphabets : List StringToken.Alphabet) : String :=
  "[" ++ ", ".intercalate (alphabets.map fun c => "\"" ++ c.name ++ "\"") ++ "]"

def lengthField : StringToken.LineLength → String
  | .chars count => "Chars(" ++ .ofList (Numeral.decimal count) ++ ")"
  | .all => "All"

def countField (n : Nat) : String := .ofList (Numeral.decimal n)

namespace Event

/-- Failures of a command are errors, its reports information, and all else is for debugging. -/
def level : Event → Log.Level
  | refusal _ | unrecognized _ => .error
  | doctor _ => .info
  | _ => .debug

/-- The words of the event. Failures have words of their own. -/
def message : Event → String
  | readingDateToken _ => "parsing date token"
  | relativeGrammar _ => "using relative date grammar"
  | boundaryGrammar _ => "using month boundary grammar"
  | appliedAdjustment _ _ => "applied adjustment"
  | resolvedDateToken _ _ => "resolved date token"
  | readingRangeToken _ => "parsing date range token"
  | rangeNotInHalves _ _ => "range token does not have two halves"
  | rangeHalfRejected _ _ _ => "range half rejected"
  | readingStringToken _ => "parsing dynamic string token"
  | validatedStringToken _ _ => "validated dynamic string token"
  | generatedString _ => "generated dynamic string"
  | dateTokenParsed _ => "date token parsed"
  | dateTokenRejected _ _ => "date token rejected"
  | rangeTokenRejected _ _ => "range token rejected"
  | stringGenerated _ => "dynamic string generated"
  | stringTokenRejected _ _ => "dynamic string token rejected"
  | settingsFileMissing _ => "no config file, using defaults"
  | levelOverrideIgnored _ => "ignoring unknown TOKENPARSER_LOG_LEVEL value"
  | clockPinned _ => "clock pinned"
  | doctor _ => "doctor"
  | refusal text => text
  | unrecognized token => "no token grammar accepts " ++ token

def fields : Event → List (String × String)
  | readingDateToken token | relativeGrammar token | boundaryGrammar token
  | readingRangeToken token | readingStringToken token => [("token", token)]
  | appliedAdjustment adjustment date => [("adjustment", adjustment.text), ("date", date.text)]
  | resolvedDateToken token instant => [("token", token), ("instant", instantField instant)]
  | rangeNotInHalves token parts => [("token", token), ("parts", countField parts)]
  | rangeHalfRejected token half error =>
    [("token", token), ("half", half), ("error", error.message)]
  | validatedStringToken token request =>
    [("token", token), ("classes", alphabetsField request.alphabets),
     ("pool", countField request.pool.length), ("length", lengthField request.length),
     ("line_count", countField request.lines)]
  | generatedString lines => [("lines", countField lines)]
  | dateTokenParsed excerpt | stringGenerated excerpt => [("token", excerpt)]
  | dateTokenRejected excerpt error | rangeTokenRejected excerpt error =>
    [("token", excerpt), ("error", error.message)]
  | stringTokenRejected excerpt error => [("token", excerpt), ("error", error.message)]
  | settingsFileMissing path => [("path", path)]
  | levelOverrideIgnored value => [("level", value)]
  | clockPinned today => [("today", today.text)]
  | doctor version => [("version", version)]
  | refusal _ | unrecognized _ => []

/-- The names that directives select the event by: its fields, and the words as `message`. -/
def fieldNames (e : Event) : List String := "message" :: e.fields.map (·.1)

/-- The component that logs the event, as directives name it. -/
def component : Event → String
  | readingDateToken _ | resolvedDateToken _ _ | readingRangeToken _ | rangeNotInHalves _ _
  | rangeHalfRejected _ _ _ => "tokenparser_core::dates"
  | relativeGrammar _ | boundaryGrammar _ | appliedAdjustment _ _ =>
    "tokenparser_core::dates::grammar"
  | readingStringToken _ | validatedStringToken _ _ => "tokenparser_core::strings::spec"
  | generatedString _ => "tokenparser_core::strings::generate"
  | dateTokenParsed _ | dateTokenRejected _ _ | rangeTokenRejected _ _ | stringGenerated _
  | stringTokenRejected _ _ => "tokenparser_core::contract"
  | settingsFileMissing _ | levelOverrideIgnored _ => "tokenparser_core::config::loader"
  | clockPinned _ => "tokenparser::cmd::date"
  | doctor _ => "tokenparser::cmd::doctor"
  | refusal _ => "tokenparser::cmd::output"
  | unrecognized _ => "tokenparser::cmd::check"

end Event

end BracketToken
