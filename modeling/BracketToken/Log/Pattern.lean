import BracketToken.Text.Alphanumeric
import BracketToken.Text.Numeral

/-!
Regular expressions, as far as a directive needs them: whether a text is one.

The text is read once from left to right. What is counted is what is still open; look-around,
references and word boundaries are no part of the expressions, and a repetition needs something
before it. Neither braces nor commas occur in the texts that directives give.
-/

namespace BracketToken.Log.Pattern

open Text Numeral

/-- What stands last in a class of characters, as far as it can begin a range. -/
inductive Item
  | nothing
  | literal (c : Char)
  | set

inductive Place
  /-- Outside of everything below; the flag tells whether there is something to repeat. -/
  | plain (repeatable : Bool)
  /-- After `(`. -/
  | group
  /-- After `(?`. -/
  | groupMark
  /-- After `(?P`. -/
  | groupLetter
  /-- In the name of a group, at its start or later. -/
  | groupName (begun : Bool)
  /-- In the flags of a group; after a minus there has to be one more. -/
  | flags (seen : List Char) (negated dangling : Bool)
  | escape
  /-- In the hexadecimal digits of a code point. -/
  | code (left value : Nat)
  /-- Before the letter of a category. -/
  | category
  /-- At the start of a class, after its `^` or before. -/
  | classStart (negated : Bool)
  | inClass (last : Item)
  /-- After a dash in a class. -/
  | dash (low : Item)

structure State where
  groups : Nat
  classes : Nat
  /-- The lower end of a range whose upper end is being read. -/
  low : Option Char
  place : Place

def start : State := ⟨0, 0, none, .plain false⟩

def State.at (s : State) (place : Place) : Option State := some { s with place := place }

def State.enter (s : State) : Option State :=
  some { s with groups := s.groups + 1, place := .plain false }

/-- Goes on after an item. The upper end of a range is a character no smaller than the lower. -/
def State.after (s : State) (item : Item) : Option State :=
  if s.classes = 0 then s.at (.plain true)
  else
    match s.low, item with
    | none, item => s.at (.inClass item)
    | some low, .literal c =>
      if low ≤ c then some { s with low := none, place := .inClass .nothing } else none
    | some _, _ => none

def State.closeClass (s : State) : Option State :=
  let place : Place := if s.classes = 1 then .plain true else .inClass .nothing
  some { s with classes := s.classes - 1, place := place }

def State.openClass (s : State) : Option State :=
  some { s with classes := s.classes + 1, place := .classStart false }

/-- A character outside of groups' openings and classes. -/
def stepPlain (s : State) (repeatable : Bool) (c : Char) : Option State :=
  if c = '(' then s.at .group
  else if c = ')' then
    if s.groups = 0 then none
    else some { s with groups := s.groups - 1, place := .plain true }
  else if c = '[' then s.openClass
  else if c = '|' then s.at (.plain false)
  else if c = '*' || c = '+' || c = '?' then
    if repeatable then s.at (.plain true) else none
  else if c = '{' then none
  else if c = '\\' then s.at .escape
  else s.at (.plain true)

def stepFlags (s : State) (seen : List Char) (negated dangling : Bool) (c : Char) :
    Option State :=
  if c = ':' then
    if dangling then none else s.enter
  else if c = ')' then
    if dangling || seen.isEmpty then none else s.at (.plain false)
  else if c = '-' then
    if negated then none else s.at (.flags seen true true)
  else if ['i', 'm', 's', 'u', 'x', 'R', 'U'].contains c && !seen.contains c then
    s.at (.flags (c :: seen) negated false)
  else none

def stepEscape (s : State) (c : Char) : Option State :=
  if c = 'x' then s.at (.code 2 0)
  else if c = 'u' then s.at (.code 4 0)
  else if c = 'U' then s.at (.code 8 0)
  else if c = 'p' || c = 'P' then s.at .category
  else if ['d', 's', 'w', 'D', 'S', 'W'].contains c then s.after .set
  else if c = 'a' then s.after (.literal '\x07')
  else if c = 'f' then s.after (.literal '\x0c')
  else if c = 't' then s.after (.literal '\t')
  else if c = 'n' then s.after (.literal '\n')
  else if c = 'r' then s.after (.literal '\r')
  else if c = 'v' then s.after (.literal '\x0b')
  else if c = 'A' || c = 'z' then
    if s.classes = 0 then s.at (.plain true) else none
  else if c.toNat < 0x80 && !c.isAlphanum && c ≠ '<' && c ≠ '>' then s.after (.literal c)
  else none

def stepCode (s : State) (left value : Nat) (c : Char) : Option State :=
  if !isDigitOf 16 c then none
  else
    let value := value * 16 + digitValue c
    if 1 < left then s.at (.code (left - 1) value)
    else if value.isValidChar then s.after (.literal (Char.ofNat value)) else none

def stepClass (s : State) (last : Item) (c : Char) : Option State :=
  if c = '[' then s.openClass
  else if c = ']' then s.closeClass
  else if c = '\\' then s.at .escape
  else if c = '-' then
    match last with
    | .nothing => s.at (.inClass .nothing)
    | last => s.at (.dash last)
  else s.after (.literal c)

def stepDash (s : State) (low : Item) (c : Char) : Option State :=
  if c = ']' then s.closeClass
  else if c = '-' then s.at (.inClass .nothing)
  else
    match low with
    | .literal low =>
      let s := { s with low := some low }
      if c = '\\' then s.at .escape else s.after (.literal c)
    | _ => none

def step (s : State) (c : Char) : Option State :=
  match s.place with
  | .plain repeatable => stepPlain s repeatable c
  | .group =>
    if c = '?' then s.at .groupMark
    else stepPlain { s with groups := s.groups + 1 } false c
  | .groupMark =>
    if c = 'P' then s.at .groupLetter
    else if c = '<' then s.at (.groupName false)
    else stepFlags s [] false false c
  | .groupLetter => if c = '<' then s.at (.groupName false) else none
  | .groupName false =>
    if c = '_' || (isAlphanumeric c && !c.isDigit) then s.at (.groupName true) else none
  | .groupName true =>
    if c = '>' then s.enter
    else if isNameChar c || c = '.' || c = '[' || c = ']' then s.at (.groupName true)
    else none
  | .flags seen negated dangling => stepFlags s seen negated dangling c
  | .escape => stepEscape s c
  | .code left value => stepCode s left value c
  | .category =>
    if ['c', 'l', 'm', 'n', 'p', 's', 'z'].contains c.toLower then s.after .set else none
  | .classStart negated =>
    if c = '^' && !negated then s.at (.classStart true)
    else if c = ']' then s.at (.inClass (.literal c))
    else stepClass s .nothing c
  | .inClass last => stepClass s last c
  | .dash low => stepDash s low c

def State.isComplete (s : State) : Bool :=
  match s.place with
  | .plain _ => s.groups = 0
  | _ => false

def isPattern (text : List Char) : Bool :=
  match text.foldlM step start with
  | some s => s.isComplete
  | none => false

end BracketToken.Log.Pattern
