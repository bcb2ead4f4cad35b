import BracketToken.Event

/-!
The text of log lines.

Control characters that a terminal acts on are written out. Line breaks and tabs are not among
them.
-/

namespace BracketToken.Log

def hexPair (n : Nat) : List Char := [Nat.digitChar (n / 16), Nat.digitChar (n % 16)]

def escape (c : Char) : List Char :=
  if c = '\x07' || c = '\x08' || c = '\x0c' || c = '\x1b' || c = '\x7f' then
    '\\' :: 'x' :: hexPair c.toNat
  else if 0x80 ≤ c.toNat && c.toNat ≤ 0x9f then
    ['\\', 'u', '{'] ++ hexPair c.toNat ++ ['}']
  else [c]

def escaped (text : String) : String := .ofList (text.toList.flatMap escape)

/-- A line without its time: level, message and fields. -/
def line (e : Event) : String :=
  String.intercalate " " (e.level.name :: escaped e.message ::
    e.fields.map fun f => f.1 ++ "=" ++ escaped f.2)

end BracketToken.Log
