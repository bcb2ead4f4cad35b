/-!
JSON values and their compact text.

Only the quote, the backslash and the characters below U+0020 are escaped; all else is written as
it is.
-/

namespace BracketToken

/-- The values that reports are made of. The fields of an object keep their order. -/
inductive Json
  | null
  | bool (value : Bool)
  | string (value : String)
  | object (fields : List (String × Json))

namespace Json

def escape (c : Char) : List Char :=
  if c = '"' then ['\\', '"']
  else if c = '\\' then ['\\', '\\']
  else if c = '\x08' then ['\\', 'b']
  else if c = '\t' then ['\\', 't']
  else if c = '\n' then ['\\', 'n']
  else if c = '\x0c' then ['\\', 'f']
  else if c = '\r' then ['\\', 'r']
  else if c.toNat < 0x20 then
    ['\\', 'u', '0', '0', Nat.digitChar (c.toNat / 16), Nat.digitChar (c.toNat % 16)]
  else [c]

def quoted (text : String) : List Char := '"' :: text.toList.flatMap escape ++ ['"']

mutual

def chars : Json → List Char
  | null => "null".toList
  | bool true => "true".toList
  | bool false => "false".toList
  | string value => quoted value
  | object fields => '{' :: fieldChars fields ++ ['}']

def fieldChars : List (String × Json) → List Char
  | [] => []
  | [(key, value)] => quoted key ++ ':' :: chars value
  | (key, value) :: rest => quoted key ++ ':' :: chars value ++ ',' :: fieldChars rest

end

def text (value : Json) : String := .ofList value.chars

/-- A text, or null if there is none. -/
def ofOption : Option String → Json
  | none => null
  | some value => string value

end Json

end BracketToken
