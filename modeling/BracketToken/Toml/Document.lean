import BracketToken.Toml.Quoted
import BracketToken.Toml.Scalar
import BracketToken.Toml.Table

/-!
Reading a TOML document.

The text is taken apart into headers and pairs, line by line, and the parts are then put together
in order. Loops carry a fuel, which the length of the text bounds: each turn takes a character.
-/

namespace BracketToken.Toml

/-- The most arrays and inline tables that may contain one another. -/
def maxDepth : Nat := 80

def maxKeyParts : Nat := 80

def skipSpaces : Scan Unit := modify (·.dropWhile isSpace)

def skipComment : Scan Unit := do
  match ← get with
  | '#' :: rest => set (rest.dropWhile isPlain)
  | _ => return

def expect (c : Char) : Scan Unit := do
  match ← get with
  | d :: rest => if d = c then set rest else refuse
  | [] => refuse

/-- Passes over the mark `c` if it stands here. -/
def passes (c : Char) : Scan Bool := do
  match ← get with
  | d :: rest => if d = c then do set rest; return true else return false
  | [] => return false

/-- The text after blanks, comments and line breaks; `comment` tells whether it starts in one. -/
def pastLines : (comment : Bool) → List Char → List Char
  | _, [] => []
  | _, '\n' :: rest => pastLines false rest
  | _, '\r' :: '\n' :: rest => pastLines false rest
  | false, c :: rest =>
    if c = '#' then pastLines true rest
    else if isSpace c then pastLines false rest
    else c :: rest
  | true, c :: rest => if isPlain c then pastLines true rest else c :: rest

def skipAll : Scan Unit := modify (pastLines false)

/-- The end of a line: a comment at most, and a break unless the text ends. -/
def lineEnd : Scan Unit := do
  skipSpaces
  skipComment
  match ← get with
  | [] => return
  | text =>
    match pastBreak? text with
    | some rest => set rest
    | none => refuse

def isKeyChar (c : Char) : Bool := c.isAlphanum || c = '_' || c = '-'

def keyPart : Scan String := do
  let text ← get
  match line? text with
  | some found => takeQuoted found
  | none =>
    let word := text.takeWhile isKeyChar
    if word.isEmpty then refuse
    else do
      set (text.drop word.length)
      return .ofList word

/-- The parts of a key after the first, which has been read as `name`. -/
def keyFrom : Nat → Key → Scan Key
  | 0, key => return key
  | fuel + 1, key => do
    skipSpaces
    if ← passes '.' then do
      skipSpaces
      let name ← keyPart
      if maxKeyParts ≤ key.path.length + 1 then throw .keyTooLong
      keyFrom fuel ⟨key.path ++ [key.name], name⟩
    else return key

def key (fuel : Nat) : Scan Key := do
  let first ← keyPart
  keyFrom fuel ⟨[], first⟩

mutual

def value : (fuel depth : Nat) → Scan Value
  | 0, _ => refuse
  | fuel + 1, depth => do
    let text ← get
    match text with
    | '[' :: rest =>
      if depth = maxDepth then throw .tooDeep
      else do
        set rest
        items fuel (depth + 1) []
    | '{' :: rest =>
      if depth = maxDepth then throw .tooDeep
      else do
        set rest
        fields fuel (depth + 1) []
    | _ =>
      match quoted? text with
      | some found => return .string (← takeQuoted found)
      | none => scalar

/-- The items of an array after its bracket; a comma may follow the last. -/
def items : (fuel depth : Nat) → List Value → Scan Value
  | 0, _, _ => refuse
  | fuel + 1, depth, done => do
    skipAll
    if ← passes ']' then return .array done.reverse
    else do
      let item ← value fuel depth
      skipAll
      if ← passes ',' then items fuel depth (item :: done)
      else do
        expect ']'
        return .array (item :: done).reverse

/-- The pairs of an inline table after its brace; lines may end between any parts of a pair, and a
comma may follow the last pair. -/
def fields : (fuel depth : Nat) → Entries → Scan Value
  | 0, _, _ => refuse
  | fuel + 1, depth, done => do
    skipAll
    if ← passes '}' then return .table .inline done
    else do
      let name ← key fuel
      skipAll
      expect '='
      skipAll
      let found ← value fuel depth
      let done ← addPair done (name, found)
      skipAll
      if ← passes ',' then fields fuel depth done
      else do
        expect '}'
        return .table .inline done

end

/-- A key, an equals sign, a value and the end of the line. -/
def pair (fuel : Nat) : Scan (Key × Value) := do
  let name ← key fuel
  expect '='
  skipSpaces
  let found ← value fuel 0
  lineEnd
  return (name, found)

/-- A header after its first bracket, up to the end of the line. -/
def header (fuel : Nat) : Scan Header := do
  if ← passes '[' then do
    skipSpaces
    let name ← key fuel
    expect ']'
    expect ']'
    lineEnd
    return .double name
  else do
    skipSpaces
    let name ← key fuel
    expect ']'
    lineEnd
    return .single name

/-- The rest of a document; `current` collects pairs and `done` collects parts, both in reverse. -/
def partsFrom : Nat → Part → List Part → Scan (List Part)
  | 0, _, _ => refuse
  | fuel + 1, current, done => do
    skipAll
    let closed : Part := ⟨current.header, current.pairs.reverse⟩
    if (← get).isEmpty then return (closed :: done).reverse
    else if ← passes '[' then do
      let next ← header fuel
      partsFrom fuel ⟨next, []⟩ (closed :: done)
    else do
      let found ← pair fuel
      partsFrom fuel ⟨current.header, found :: current.pairs⟩ done

/-- Reads a document. A byte order mark at the start does not count. -/
def read (text : String) : Except Error Entries := do
  let chars := match text.toList with
    | '\uFEFF' :: rest => rest
    | chars => chars
  let (parts, _) ← (partsFrom (3 * chars.length + 3) ⟨.top, []⟩ []).run chars
  parts.foldlM addPart []

end BracketToken.Toml
