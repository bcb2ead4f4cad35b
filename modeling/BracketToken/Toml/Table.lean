import BracketToken.Toml.Basic

/-!
Putting keys and tables into a TOML document.

A table that has a header may not be opened again, a table between braces takes nothing more, and a
dotted key extends only tables that dotted keys made.
-/

namespace BracketToken.Toml

def put (key : String) (value : Value) : Entries → Entries
  | [] => [(key, value)]
  | (k, v) :: rest => if k = key then (k, value) :: rest else (k, v) :: put key value rest

/-- Whether a dotted key may pass through a table. -/
def Origin.opensToDotted : Origin → Bool
  | .implicit | .dotted => true
  | .header | .inline => false

/-- Whether a key on the way to another table may pass through a table. -/
def Origin.opensTo (dotted : Bool) : Origin → Bool
  | .inline => false
  | origin => !dotted || origin.opensToDotted

/-- Changes the table at the end of a path, and makes the tables on the way that are missing. Under
a double-bracketed header the path goes on in the latest table. -/
def within (change : Origin → Entries → Except Error Entries) (dotted : Bool) :
    List String → Origin → Entries → Except Error Entries
  | [], origin, entries => change origin entries
  | key :: path, _, entries =>
    match entries.lookup key with
    | none => do
      let made := if dotted then Origin.dotted else .implicit
      let inner ← within change dotted path made []
      return put key (.table made inner) entries
    | some (.table origin inner) =>
      if origin.opensTo dotted then do
        let inner ← within change dotted path origin inner
        return put key (.table origin inner) entries
      else .error (.notExtendable key)
    | some (.tables (latest :: earlier)) => do
      let latest ← within change dotted path .header latest
      return put key (.tables (latest :: earlier)) entries
    | some _ => .error (.notExtendable key)

def addNew (key : String) (value : Value) (entries : Entries) : Except Error Entries :=
  match entries.lookup key with
  | none => .ok (put key value entries)
  | some _ => .error (.duplicateKey key)

/-- A key with its dots taken apart: the tables on the way and the last part. -/
structure Key where
  path : List String
  name : String

/-- Adds a value under a key, which may have dots. -/
def addPair (entries : Entries) (pair : Key × Value) : Except Error Entries :=
  let (key, value) := pair
  if key.path.isEmpty then addNew key.name value entries
  else
    within (fun origin inner =>
      if origin = .dotted then addNew key.name value inner
      else .error (.duplicateKey key.name)) true key.path .header entries

inductive Header
  /-- The start of the document. -/
  | top
  /-- `[key]`, one table. -/
  | single (key : Key)
  /-- `[[key]]`, one more table under the key. -/
  | double (key : Key)

/-- A header and the pairs up to the next one. -/
structure Part where
  header : Header
  pairs : List (Key × Value)

/-- Adds the table of a single header, which may already have subtables. -/
def openTable (name : String) (pairs : List (Key × Value)) (entries : Entries) :
    Except Error Entries := do
  let start ← match entries.lookup name with
    | none => pure []
    | some (.table .implicit inner) => pure inner
    | some _ => throw (.duplicateKey name)
  let inner ← pairs.foldlM addPair start
  return put name (.table .header inner) entries

/-- Adds one more table under a double header. -/
def appendTable (name : String) (pairs : List (Key × Value)) (entries : Entries) :
    Except Error Entries := do
  let inner ← pairs.foldlM addPair []
  match entries.lookup name with
  | none => return put name (.tables [inner]) entries
  | some (.tables earlier) => return put name (.tables (inner :: earlier)) entries
  | some _ => throw (.duplicateKey name)

def addPart (document : Entries) (part : Part) : Except Error Entries :=
  match part.header with
  | .top => part.pairs.foldlM addPair document
  | .single key =>
    within (fun _ => openTable key.name part.pairs) false key.path .header document
  | .double key =>
    within (fun _ => appendTable key.name part.pairs) false key.path .header document

end BracketToken.Toml
