import BracketToken.Text.Blank

/-!
Severities of events, the thresholds that choose among them, and the names of thresholds.

Names in settings are read without regard to blanks around them and to case. ASCII case is enough:
no other character has a lower case that a name contains.
-/

namespace BracketToken.Log

open Text

inductive Level
  | error
  | warn
  | info
  | debug
  | trace
  deriving DecidableEq

namespace Level

/-- The place of the level, from the gravest on. -/
def rank : Level → Nat
  | error => 1
  | warn => 2
  | info => 3
  | debug => 4
  | trace => 5

/-- The name that log lines show. -/
def name : Level → String
  | error => "ERROR"
  | warn => "WARN"
  | info => "INFO"
  | debug => "DEBUG"
  | trace => "TRACE"

end Level

/-- A threshold: the least grave level that passes, or nothing at all. -/
inductive Threshold
  | off
  | upTo (level : Level)
  deriving DecidableEq

namespace Threshold

/-- The thresholds from the strictest to the laxest. -/
def all : List Threshold :=
  [off, upTo .error, upTo .warn, upTo .info, upTo .debug, upTo .trace]

/-- The name that settings use. -/
def name : Threshold → String
  | off => "off"
  | upTo .error => "error"
  | upTo .warn => "warn"
  | upTo .info => "info"
  | upTo .debug => "debug"
  | upTo .trace => "trace"

def ofName? (word : List Char) : Option Threshold := all.find? (·.name.toList = word)

def passes : Threshold → Level → Bool
  | off, _ => false
  | upTo least, level => level.rank ≤ least.rank

/-- A name as it is compared: without blanks at its ends and in lower case. -/
def normalName (text : String) : List Char := (trim text.toList).map Char.toLower

/-- The threshold that a text names; `silent` is another name for `off`. -/
def read? (text : String) : Option Threshold :=
  let word := normalName text
  if word = "silent".toList then some off else ofName? word

theorem ofName?_name (t : Threshold) : ofName? t.name.toList = some t := by
  rcases t with _ | (_ | _ | _ | _ | _) <;> decide

end Threshold

end BracketToken.Log
