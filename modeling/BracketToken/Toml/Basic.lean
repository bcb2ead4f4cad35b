/-!
TOML values, and why a text is no TOML document.
-/

namespace BracketToken.Toml

/-- How a table came to be. Only some tables may be added to later. -/
inductive Origin
  /-- Named by a header of its own, or the document itself. -/
  | header
  /-- Named only as a part of other headers. -/
  | implicit
  /-- Named only by dotted keys. -/
  | dotted
  /-- Written between braces. -/
  | inline
  deriving DecidableEq

inductive Value
  | string (text : String)
  | integer (n : Int)
  | float (text : String)
  /-- A word that passes for a number when it is read, and denotes none that a word of the machine
  holds. -/
  | unheld (text : String)
  | boolean (value : Bool)
  | moment (text : String)
  | array (items : List Value)
  | table (origin : Origin) (entries : List (String × Value))
  /-- The tables under one double-bracketed header, the latest first. -/
  | tables (elements : List (List (String × Value)))

abbrev Entries := List (String × Value)

mutual

/-- Whether every number in a value is held. -/
def Value.isHeld : Value → Bool
  | .unheld _ => false
  | .array items => allHeld items
  | .table _ entries => entriesHeld entries
  | .tables elements => tablesHeld elements
  | .string _ | .integer _ | .float _ | .boolean _ | .moment _ => true

def allHeld : List Value → Bool
  | [] => true
  | value :: rest => value.isHeld && allHeld rest

def entriesHeld : List (String × Value) → Bool
  | [] => true
  | (_, value) :: rest => value.isHeld && entriesHeld rest

def tablesHeld : List (List (String × Value)) → Bool
  | [] => true
  | entries :: rest => entriesHeld entries && tablesHeld rest

end

inductive Error
  /-- Something else was expected where this text starts. -/
  | unexpected (rest : List Char)
  | badEscape
  | badValue (text : String)
  | duplicateKey (key : String)
  /-- The key names something that cannot take further keys. -/
  | notExtendable (key : String)
  | tooDeep
  | keyTooLong
  deriving DecidableEq

def Error.message : Error → String
  | unexpected [] => "unexpected end of text"
  | unexpected (c :: _) => "unexpected " ++ String.singleton c
  | badEscape => "invalid escape sequence"
  | badValue text => "invalid value " ++ text
  | duplicateKey key => "duplicate key " ++ key
  | notExtendable key => "cannot extend " ++ key
  | tooDeep => "nested too deeply"
  | keyTooLong => "a key has too many parts"

/-- A reading step: what it finds, and the text after it. -/
abbrev Scan := StateT (List Char) (Except Error)

def refuse {α : Type} : Scan α := do throw (.unexpected (← get))

end BracketToken.Toml
