import BracketToken.Settings.Basic
import BracketToken.Toml.Document

/-!
The settings file: a version and a section for logging.

The section is a table or a list of its fields in order. Keys that mean nothing are passed over, but
their numbers have to be numbers that are held. What a list has beyond its fields is not looked at.
A date or a time in the place of the section counts as a table without a key that means anything.
-/

namespace BracketToken.Settings

structure Document where
  version : Nat
  level : String
  fileLevel : Option String
  file : Option String
  deriving DecidableEq

def maxVersion : Nat := 4294967295

/-- A version is an integer that an unsigned 32-bit word holds. -/
def versionOf (entries : Toml.Entries) : Except Malformed Nat :=
  match entries.lookup "version" with
  | none => .error (.missing "version")
  | some (.integer n) =>
    if 0 ≤ n ∧ n ≤ maxVersion then .ok n.toNat else .error (.wrongType "version")
  | some _ => .error (.wrongType "version")

/-- A text, if the field is there. -/
def textOf (key : String) : Option Toml.Value → Except Malformed (Option String)
  | none => .ok none
  | some (.string text) => .ok (some text)
  | some _ => .error (.wrongType key)

/-- The section whose fields are found by `field?` under a name and a place. -/
def sectionOf (version : Nat) (field? : String → Nat → Option Toml.Value) :
    Except Malformed Document := do
  let level ← textOf "level" (field? "level" 0)
  let fileLevel ← textOf "file_level" (field? "file_level" 1)
  let file ← textOf "file" (field? "file" 2)
  return ⟨version, level.getD Settings.default.level, fileLevel, file⟩

/-- Refuses a number that is not held under a key that means nothing. -/
def checkOthers (known : List String) (entries : Toml.Entries) : Except Malformed Unit :=
  match entries.find? fun e => !known.contains e.1 && !e.2.isHeld with
  | some (key, _) => .error (.wrongType key)
  | none => .ok ()

def loggingOf (version : Nat) : Option Toml.Value → Except Malformed Document
  | none | some (.moment _) => sectionOf version fun _ _ => none
  | some (.table _ inner) => do
    checkOthers ["level", "file_level", "file"] inner
    sectionOf version fun name _ => inner.lookup name
  | some (.array items) => sectionOf version fun _ place => items[place]?
  | some _ => .error (.wrongType "logging")

def Document.ofEntries (entries : Toml.Entries) : Except Malformed Document := do
  checkOthers ["version", "logging"] entries
  let version ← versionOf entries
  loggingOf version (entries.lookup "logging")

def Document.read (text : String) : Except Malformed Document :=
  match Toml.read text with
  | .error e => .error (.notToml e)
  | .ok entries => Document.ofEntries entries

end BracketToken.Settings
