import BracketToken.Event
import BracketToken.Log.Pattern
import BracketToken.Text.Split

/-!
Directives: which events of which component a log shows.

A directive is a level, or the start of a component's name, or a name in square brackets with the
name of a field in braces, and then perhaps `=` and a level. Blanks around a directive do not count
when its parts are found, but the parts are then taken at the same bytes of the text with its
blanks. So a blank before a directive shifts its parts, and it can happen that a part would begin or
end inside a character.
-/

namespace BracketToken.Log

open Text Numeral

structure Directive where
  /-- How the name of the component starts. -/
  target : Option (List Char)
  /-- The field that an event needs to have. -/
  field : Option (List Char)
  /-- Whether an event has to lie in a span of some kind. No event lies in any. -/
  inSpan : Bool
  threshold : Threshold
  deriving DecidableEq

inductive Directive.Fault
  /-- The text does not have the shape of a directive. -/
  | malformed
  /-- A part begins or ends inside a character. -/
  | cutCharacter
  deriving DecidableEq

/-- The threshold of a word: a name in any case, or a number that counts from none to all. -/
def Threshold.ofWord? (word : List Char) : Option Threshold :=
  let digits := match word with
    | '+' :: rest => rest
    | _ => word
  if isNumeral digits then all[value digits]? else ofName? (word.map Char.toLower)

namespace Directive

/-- What speaks of every event: a threshold alone. -/
def ofThreshold (threshold : Threshold) : Directive := ⟨none, none, false, threshold⟩

/-- The bytes of a text from `start` to `stop`. -/
def slice (text : List Char) (start stop : Nat) : Except Fault (List Char) :=
  match splitAtByte? start text with
  | none => .error .cutCharacter
  | some (_, rest) =>
    match splitAtByte? (stop - start) rest with
    | none => .error .cutCharacter
    | some (part, _) => .ok part

def sliceFrom (text : List Char) (start : Nat) : Except Fault (List Char) :=
  slice text start (byteSize text)

/-- The threshold that is written from a byte on; where nothing is written, everything passes. -/
def thresholdAt (text : List Char) (start : Nat) : Except Fault Threshold := do
  let word ← sliceFrom text start
  if word.isEmpty then return .upTo .trace
  else
    match Threshold.ofWord? word with
    | some threshold => return threshold
    | none => throw .malformed

/-- The threshold after the brackets; `rest` is what follows them, from the byte `start` on. -/
def thresholdAfter (text : List Char) (start : Nat) : (rest : List Char) → Except Fault Threshold
  | [] => .ok (.upTo .trace)
  | '=' :: _ => thresholdAt text (start + 1)
  | _ => .error .malformed

/-- Whether a text is a number for a field, with a plus in front of it. -/
def isPlusNumber : List Char → Bool
  | '+' :: text =>
    let word := text.map Char.toLower
    let whole := word.takeWhile Char.isDigit
    let (fraction, rest) := match word.drop whole.length with
      | '.' :: rest => (rest.takeWhile Char.isDigit, rest.dropWhile Char.isDigit)
      | rest => ([], rest)
    let exponent := match rest with
      | [] => true
      | 'e' :: '+' :: digits | 'e' :: '-' :: digits | 'e' :: digits => isNumeral digits
      | _ => false
    ["inf".toList, "infinity".toList, "nan".toList].contains word ||
      (!(whole ++ fraction).isEmpty && exponent)
  | _ => false

/-- A field as braces name it: its name, and whether they ask for a value too. A value is a number
or a regular expression. -/
def field? (text : List Char) : Option (List Char × Bool) :=
  match text.splitOn '=' with
  | name :: value :: _ =>
    if isPlusNumber value || Pattern.isPattern value then some (name, true) else none
  | _ => some (text, false)

/-- A directive from its bracket on. What follows the bracket is `rest`, from the byte `start`
on. -/
def bracketed (text : List Char) (target : Option (List Char)) (start : Nat) (rest : List Char) :
    Except Fault Directive := do
  let name := rest.takeWhile fun c => c ≠ ']' && c ≠ '\x7b'
  let stop := start + byteSize name
  match rest.drop name.length with
  | ']' :: rest =>
    let _ ← slice text start stop
    return ⟨target, none, true, ← thresholdAfter text (stop + 1) rest⟩
  | '\x7b' :: rest =>
    let span ← slice text start stop
    let inner := rest.takeWhile (· ≠ '\x7d')
    let fieldStop := stop + 1 + byteSize inner
    match rest.drop inner.length with
    | '\x7d' :: rest =>
      let inner ← slice text (stop + 1) fieldStop
      if inner.isEmpty then throw .malformed
      match field? inner, rest with
      | some (field, hasValue), ']' :: rest =>
        return ⟨target, some field, !span.isEmpty || hasValue,
          ← thresholdAfter text (fieldStop + 2) rest⟩
      | _, _ => throw .malformed
    | _ => throw .malformed
  | _ => throw .malformed

/-- A character that a directive without a bracket can start with. -/
def isStart (c : Char) : Bool := c = '-' || c = ':' || c = '_' || isAlphanumeric c

/-- Reads a directive. A word alone is a threshold if it names one, and otherwise a component of
which everything passes. -/
def read (text : List Char) : Except Fault Directive :=
  match trim text with
  | [] => .error .malformed
  | '[' :: rest => bracketed text none 1 rest
  | c :: rest => do
    if !isStart c then throw .malformed
    let word := (c :: rest).takeWhile fun c => c ≠ '=' && c ≠ '['
    let stop := byteSize word
    match (c :: rest).drop word.length with
    | [] =>
      match Threshold.ofWord? text with
      | some threshold => return ofThreshold threshold
      | none => return ⟨some text, none, false, .upTo .trace⟩
    | '[' :: rest =>
      let target ← slice text 0 stop
      bracketed text (some target) (stop + 1) rest
    | _ =>
      let target ← slice text 0 stop
      return ⟨some target, none, false, ← thresholdAt text (stop + 1)⟩

/-- The directives among some texts; what is malformed is passed over. There are none if a part of
one cuts a character. -/
def ofTexts? : List (List Char) → Option (List Directive)
  | [] => some []
  | text :: texts =>
    match read text with
    | .ok directive => (ofTexts? texts).map (directive :: ·)
    | .error .malformed => ofTexts? texts
    | .error .cutCharacter => none

/-- The directives of a list with commas between them. -/
def readAll? (text : String) : Option (List Directive) := ofTexts? (text.toList.splitOn ',')

def selects (d : Directive) (e : Event) : Bool :=
  !d.inSpan && d.target.all (·.isPrefixOf e.component.toList) &&
    d.field.all fun name => e.fieldNames.any (·.toList = name)

/-- How closely a directive names a component. -/
def precision (d : Directive) : Nat :=
  match d.target with
  | none => 0
  | some name => byteSize name + 1

/-- Whether a field makes a directive more specific than another: any field does, and of two fields
the later in the order of texts. -/
def fieldOutranks : Option (List Char) → Option (List Char) → Bool
  | some _, none => true
  | some name, some other => other < name
  | none, _ => false

/-- Whether the first of two directives is the more specific one: by its component, and then by its
field. -/
def outranks (d other : Directive) : Bool :=
  other.precision < d.precision ||
    (d.precision = other.precision && fieldOutranks d.field other.field)

end Directive

end BracketToken.Log
