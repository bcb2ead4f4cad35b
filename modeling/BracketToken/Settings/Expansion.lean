import BracketToken.Environment
import BracketToken.Text.Alphanumeric

/-!
Expansion of variables and of the home directory in a path.

A path is taken apart into characters and variables, and then each variable is replaced. A leading
`~` is the home directory only if it was written in the path and did not come out of a variable.
-/

namespace BracketToken.Settings

open Text

/-- A part of a path: a character that stands for itself, or the name of a variable, with what holds
where it is unset. -/
inductive Piece
  | char (c : Char)
  | named (name : String) (default : Option (List Char))
  deriving DecidableEq

/-- The text before the first `:-` and the text after it. -/
def splitDefault : List Char → Option (List Char × List Char)
  | [] => none
  | ':' :: '-' :: rest => some ([], rest)
  | c :: rest => (splitDefault rest).map fun parts => (c :: parts.1, parts.2)

/-- The variable of `${inner}`. A default follows `:-`, unless no name would stand before it. -/
def Piece.ofBraces (inner : List Char) : Piece :=
  match splitDefault inner with
  | some (c :: name, default) => named (.ofList (c :: name)) (some default)
  | _ => named (.ofList inner) none

/-- Takes a path apart. A `$` that starts no name stands for itself, and `$$` for one of them. -/
def piecesFrom : Nat → List Char → List Piece
  | 0, text => text.map .char
  | _, [] => []
  | fuel + 1, '$' :: '{' :: rest =>
    match rest.span (· ≠ '}') with
    | (inner, _ :: after) => .ofBraces inner :: piecesFrom fuel after
    | (_, []) => .char '$' :: .char '{' :: piecesFrom fuel rest
  | fuel + 1, '$' :: '$' :: rest => .char '$' :: piecesFrom fuel rest
  | fuel + 1, '$' :: rest =>
    let name := rest.takeWhile isNameChar
    if name.isEmpty then .char '$' :: piecesFrom fuel rest
    else .named (.ofList name) none :: piecesFrom fuel (rest.drop name.length)
  | fuel + 1, c :: rest => .char c :: piecesFrom fuel rest

def pieces (path : String) : List Piece := piecesFrom path.length path.toList

def Piece.name? : Piece → Option String
  | char _ => none
  | named name _ => some name

/-- The variables whose values an expansion asks for. -/
def mentioned (path : String) : List String := (pieces path).filterMap Piece.name?

/-- The text of a piece. A variable that is set, even to nothing, does without its default. -/
def Piece.value? (env : Environment) : Piece → Option (List Char)
  | char c => some [c]
  | named name default =>
    match env.lookup? name with
    | some value => some value.toList
    | none => default

/-- Puts the home directory in the place of a `~` that stands alone or before a slash. -/
def expandHome (env : Environment) : List Char → List Char
  | '~' :: rest =>
    match env.home?, rest with
    | some home, [] => home.toList
    | some home, '/' :: _ => home.toList ++ rest
    | _, _ => '~' :: rest
  | text => text

def startsWithHome (text : List Char) : Bool := text.head? = some '~'

/-- Expands a path, unless it has a variable that is unset and has no default. -/
def expand? (env : Environment) (path : String) : Option String := do
  let values ← (pieces path).mapM (·.value? env)
  let expanded := values.flatten
  if startsWithHome expanded && !startsWithHome path.toList then
    return .ofList expanded
  return .ofList (expandHome env expanded)

end BracketToken.Settings
