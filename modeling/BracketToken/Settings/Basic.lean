import BracketToken.FileSystem
import BracketToken.Toml.Basic

/-!
Settings, and why they cannot be had.
-/

namespace BracketToken

/-- The settings of a run. Levels are texts as they were written. -/
structure Settings where
  /-- The file that the settings come from, if they do not come from defaults. -/
  source : Option String
  level : String
  fileLevel : Option String
  file : Option String
  deriving DecidableEq

namespace Settings

/-- The settings where no file gives any. -/
def default : Settings := ⟨none, "info", none, none⟩

inductive Unreadable
  | isDirectory
  | denied
  | notUtf8
  deriving DecidableEq

def Unreadable.message : Unreadable → String
  | isDirectory => "Is a directory (os error 21)"
  | denied => "Permission denied (os error 13)"
  | notUtf8 => "stream did not contain valid UTF-8"

inductive Malformed
  | notToml (error : Toml.Error)
  | missing (key : String)
  | wrongType (key : String)
  deriving DecidableEq

def Malformed.message : Malformed → String
  | notToml error => error.message
  | missing key => "missing field " ++ key
  | wrongType key => "invalid type for " ++ key

inductive Failure
  | notFound (path : String)
  | unreadable (path : String) (cause : Unreadable)
  | malformed (path : String) (cause : Malformed)
  | badVersion (version : Nat)
  | noHome
  deriving DecidableEq

def Failure.message : Failure → String
  | notFound path => "config file not found at " ++ path
  | unreadable path cause => "failed to read config file " ++ path ++ ": " ++ cause.message
  | malformed path cause => "failed to parse TOML in " ++ path ++ ": " ++ cause.message
  | badVersion version =>
    "version " ++ .ofList (Nat.toDigits 10 version) ++ " is unsupported (expected 1)"
  | noHome => "home directory not available to expand '~'"

end Settings

end BracketToken
