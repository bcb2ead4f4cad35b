import BracketToken.Bracket

/-!
Why a string token is refused, and the message for each cause.
-/

namespace BracketToken.StringToken

inductive Error
  /-- The text does not have the shape of a string token. -/
  | invalidFormat (token : String)
  /-- A segment where an alphabet belongs names none. -/
  | unknownAlphabet (name token : String)
  /-- The length is zero or has a leading zero, or one line is too long. -/
  | invalidLength (token : String)
  /-- There are no lines, or together they are too long. -/
  | invalidLineCount (token : String)
  /-- The alphabets hold no character. -/
  | emptyPool (token : String)
  deriving DecidableEq

def Error.message : Error → String
  | invalidFormat token => malformedToken ++ ": " ++ token
  | unknownAlphabet name token => "Invalid character type '" ++ name ++ "' in token: " ++ token
  | invalidLength token => "Invalid length in token: " ++ token
  | invalidLineCount token => "Invalid line count in token: " ++ token
  | emptyPool token => "No valid character types found in token: " ++ token

end BracketToken.StringToken
