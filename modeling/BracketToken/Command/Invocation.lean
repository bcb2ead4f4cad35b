import BracketToken.Calendar.Canonical

/-!
What a command line asks for.

Arguments are read from left to right, and the first one that is wrong decides. The options
`--config` and `--json` may stand before and after the name of the command, once in each place; the
later place goes over the earlier.
-/

namespace BracketToken.Command

open Calendar

inductive Action
  | date (token : String) (today : Option Date)
  | range (token : String)
  | string (token : String)
  | check (token : String)
  | doctor
  deriving DecidableEq

structure Invocation where
  config : Option String
  json : Bool
  action : Action
  deriving DecidableEq

/-- What a command line comes to. -/
inductive Wish
  | run (invocation : Invocation)
  | version
  | help
  deriving DecidableEq

inductive UsageError
  | unknownOption (text : String)
  | unknownCommand (text : String)
  | unexpectedArgument (text : String)
  | unexpectedValue (option : String)
  | missingValue (option : String)
  | badValue (option value : String)
  | repeated (option : String)
  | missingCommand
  | missingToken
  deriving DecidableEq

def UsageError.message : UsageError → String
  | unknownOption text => "error: unexpected argument '" ++ text ++ "' found"
  | unknownCommand text => "error: unrecognized subcommand '" ++ text ++ "'"
  | unexpectedArgument text => "error: unexpected argument '" ++ text ++ "' found"
  | unexpectedValue option => "error: unexpected value for '--" ++ option ++ "'"
  | missingValue option => "error: a value is required for '--" ++ option ++ "'"
  | badValue option value => "error: invalid value '" ++ value ++ "' for '--" ++ option ++ "'"
  | repeated option => "error: the argument '--" ++ option ++ "' cannot be used multiple times"
  | missingCommand => "error: a subcommand is required"
  | missingToken => "error: a token is required"

inductive Name
  | date
  | range
  | string
  | check
  | doctor
  deriving DecidableEq

namespace Name

def all : List Name := [date, range, string, check, doctor]

def text : Name → String
  | date => "date"
  | range => "range"
  | string => "string"
  | check => "check"
  | doctor => "doctor"

def ofText? (word : String) : Option Name := all.find? (·.text = word)

end Name

inductive Flag
  | config
  | json
  | today
  | version
  | help
  deriving DecidableEq

namespace Flag

def all : List Flag := [config, json, today, version, help]

/-- The name of the option without its dashes. -/
def text : Flag → String
  | config => "config"
  | json => "json"
  | today => "today"
  | version => "version"
  | help => "help"

/-- Whether the flag may stand after a command, or before any. -/
def allowed : Flag → Option Name → Bool
  | today, name => name = some .date
  | version, name => name = none
  | config, _ | json, _ | help, _ => true

def ofText? (name : Option Name) (word : String) : Option Flag :=
  all.find? fun f => f.text = word && f.allowed name

def ofLetter? (name : Option Name) : Option Char → Option Flag
  | some 'h' => some help
  | some 'V' => if name = none then some version else none
  | _ => none

end Flag

inductive Argument
  /-- `--name` or `--name=value`. -/
  | long (name : String) (value : Option String)
  /-- `-` and letters. -/
  | short (letters : List Char)
  /-- `--`, after which nothing is an option. -/
  | separator
  | plain (text : String)
  deriving DecidableEq

/-- An argument by its first characters. A lone `-` is no option. -/
def Argument.ofText (text : String) : Argument :=
  match text.toList with
  | ['-', '-'] => separator
  | '-' :: '-' :: rest =>
    match rest.span (· ≠ '=') with
    | (name, _ :: value) => long (.ofList name) (some (.ofList value))
    | (name, []) => long (.ofList name) none
  | '-' :: c :: rest => short (c :: rest)
  | _ => plain text

/-- Whether an argument can be the value of the option before it. -/
def Argument.isPlain : Argument → Bool
  | plain _ => true
  | _ => false

structure Options where
  config : Option String := none
  json : Bool := false
  deriving DecidableEq

structure Progress where
  before : Options := {}
  /-- The options in the place that is being read. -/
  here : Options := {}
  name : Option Name := none
  today : Option Date := none
  token : Option String := none
  /-- Whether a separator has been passed. -/
  literal : Bool := false
  deriving DecidableEq

namespace Progress

/-- Takes an argument that is no option: the command first, then its token. -/
def takePlain (p : Progress) (text : String) : Except UsageError Progress :=
  match p.name with
  | none =>
    if p.literal then .error (.unexpectedArgument text)
    else
      match Name.ofText? text with
      | some name => .ok { p with before := p.here, here := {}, name := some name }
      | none => .error (.unknownCommand text)
  | some .doctor => .error (.unexpectedArgument text)
  | some _ =>
    match p.token with
    | none => .ok { p with token := some text }
    | some _ => .error (.unexpectedArgument text)

def takeValue (p : Progress) (flag : Flag) (value : String) : Except UsageError Progress :=
  match flag with
  | .today =>
    if p.today.isSome then .error (.repeated flag.text)
    else
      match Date.ofChars? value.toList with
      | some date => .ok { p with today := some date }
      | none => .error (.badValue flag.text value)
  | _ =>
    if p.here.config.isSome then .error (.repeated flag.text)
    else if value.isEmpty then .error (.badValue flag.text value)
    else .ok { p with here := { p.here with config := some value } }

/-- Takes the option for JSON, which has no value. -/
def takeJson (p : Progress) : Except UsageError Progress :=
  if p.here.json then .error (.repeated Flag.json.text)
  else .ok { p with here := { p.here with json := true } }

def finish (p : Progress) : Except UsageError Wish :=
  let done (action : Action) : Except UsageError Wish :=
    .ok (.run ⟨p.here.config.or p.before.config, p.here.json || p.before.json, action⟩)
  match p.name, p.token with
  | none, _ => .error .missingCommand
  | some .doctor, _ => done .doctor
  | some _, none => .error .missingToken
  | some .date, some token => done (.date token p.today)
  | some .range, some token => done (.range token)
  | some .string, some token => done (.string token)
  | some .check, some token => done (.check token)

/-- The command `help` takes at most the name of a command. -/
def helpFor : List String → Except UsageError Wish
  | [] => .ok .help
  | [name] =>
    if name = "help" || (Name.ofText? name).isSome then .ok .help else .error (.unknownCommand name)
  | _ :: name :: _ => .error (.unknownCommand name)

def read (p : Progress) : List String → Except UsageError Wish
  | [] => p.finish
  | text :: rest =>
    if p.literal then do
      let p ← p.takePlain text
      p.read rest
    else
      match Argument.ofText text with
      | .separator => { p with literal := true }.read rest
      | .plain text =>
        if p.name = none && text = "help" then helpFor rest
        else do
          let p ← p.takePlain text
          p.read rest
      | .short letters =>
        match Flag.ofLetter? p.name letters.head? with
        | some .help => .ok .help
        | some .version => .ok .version
        | _ => .error (.unknownOption text)
      | .long name value =>
        match Flag.ofText? p.name name, value with
        | none, _ => .error (.unknownOption text)
        | some .help, none => .ok .help
        | some .version, none => .ok .version
        | some .json, none => do
          let p ← p.takeJson
          p.read rest
        | some .help, some _ => .error (.unexpectedValue name)
        | some .version, some _ => .error (.unexpectedValue name)
        | some .json, some _ => .error (.unexpectedValue name)
        | some flag, some value => do
          let p ← p.takeValue flag value
          p.read rest
        | some flag, none =>
          match rest with
          | [] => .error (.missingValue name)
          | value :: rest =>
            if (Argument.ofText value).isPlain then do
              let p ← p.takeValue flag value
              p.read rest
            else .error (.missingValue name)

end Progress

def Wish.ofArguments (arguments : List String) : Except UsageError Wish :=
  Progress.read {} arguments

end BracketToken.Command
