import BracketToken.Environment
import BracketToken.Log.Level
import BracketToken.Settings.Document
import BracketToken.Settings.Expansion
import BracketToken.Traced

/-!
Loading settings.

A path that is given has to exist; the default path may be missing, and then defaults hold. A
variable of the environment can replace the level of either.
-/

namespace BracketToken.Settings

def levelVariable : String := "TOKENPARSER_LOG_LEVEL"

def defaultPath (env : Environment) : String :=
  let base := match env.lookup? "XDG_CONFIG_HOME" with
    | some base => base
    | none => joinPath (env.home?.getD "~") ".config"
  joinPath base "tokenparser/config.toml"

def knownLevels : List String := ["off", "error", "warn", "info", "debug", "trace"]

/-- A level in normal form: without blanks at its ends, in lower case, and `off` for `silent`. -/
def normalLevel (text : String) : String :=
  let word := String.ofList (Log.Threshold.normalName text)
  if word = "silent" then "off" else word

/-- Replaces the level by a value whose normal form is known; any other value is logged. -/
def overrideLevel (s : Settings) : Option String → Logged Settings
  | none => ⟨[], s⟩
  | some text =>
    if knownLevels.contains (normalLevel text) then ⟨[], { s with level := normalLevel text }⟩
    else ⟨[.levelOverrideIgnored text], s⟩

def textAt (path : String) : FileEntry → Except Failure String
  | .directory => .error (.unreadable path .isDirectory)
  | .locked => .error (.unreadable path .denied)
  | .file bytes =>
    match String.fromUTF8? bytes with
    | none => .error (.unreadable path .notUtf8)
    | some text => .ok text

def logFile (env : Environment) : Option String → Except Failure (Option String)
  | none => .ok none
  | some path =>
    match expand? env path with
    | none => .error .noHome
    | some path => .ok (some path)

/-- The settings of a file. The version is judged before the log file. -/
def ofFile (env : Environment) (path : String) (entry : FileEntry) : Except Failure Settings := do
  let text ← textAt path entry
  let document ← match Document.read text with
    | .error cause => throw (.malformed path cause)
    | .ok document => pure document
  if document.version ≠ 1 then throw (.badVersion document.version)
  let file ← logFile env document.file
  return ⟨some path, document.level, document.fileLevel, file⟩

/-- The settings before the environment replaces a level. -/
def unadjusted (files : FileSystem) (env : Environment) (given : Option String) :
    Traced Failure Settings :=
  let path := given.getD (defaultPath env)
  match files.entry? path with
  | some entry => .ofExcept (ofFile env path entry)
  | none =>
    match given with
    | some _ => .fail (.notFound path)
    | none => do
      .log (.settingsFileMissing path)
      return .default

def load (files : FileSystem) (env : Environment) (given : Option String) :
    Traced Failure Settings := do
  let settings ← unadjusted files env given
  let adjusted := overrideLevel settings (env.lookup? levelVariable)
  ⟨adjusted.events, .ok adjusted.value⟩

end BracketToken.Settings
