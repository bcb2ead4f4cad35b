/-!
The environment variables of a run, and the home directory.
-/

namespace BracketToken

/-- Variables by name, and the home that the account has when no variable names one. -/
structure Environment where
  lookup? : String → Option String
  accountHome? : Option String

/-- The home directory: the variable `HOME` unless it is empty, then the account's. -/
def Environment.home? (env : Environment) : Option String :=
  match env.lookup? "HOME" with
  | some home => if home.isEmpty then env.accountHome? else some home
  | none => env.accountHome?

end BracketToken
