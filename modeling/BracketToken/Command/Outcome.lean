import BracketToken.Command.Invocation
import BracketToken.Command.Process
import BracketToken.Response
import BracketToken.Settings.Loading

/-!
What a command line does.

A run is a function of its arguments and of the world around it: environment, files, clock and
indices. It ends with an exit status, the text for standard output, and the events that pass the
thresholds of standard error and of the log file.

What a command does is a list of acts, which a process goes through.
-/

namespace BracketToken.Command

open Calendar

def programName : String := "tokenparser"

def version : String := "0.3.1"

def refusedStatus : Nat := 1

/-- Exit status where the command line or the settings are of no use. -/
def unusableStatus : Nat := 2

/-- Exit status where the directives of the environment break the run. -/
def brokenStatus : Nat := 101

/-- What surrounds a run. -/
structure World (σ : Type) where
  environment : Environment
  files : FileSystem
  now : Instant
  source : StringToken.IndexSource σ
  /-- The state that the source of indices starts from. -/
  state : σ

structure Outcome where
  exit : Nat
  stdout : String := ""
  /-- What goes to standard error outside the log. -/
  notice : Option String := none
  /-- The events that standard error shows. -/
  events : List Event := []
  /-- The log file and the events in it. -/
  logFile : Option (String × List Event) := none

/-- What a process comes to whose log file, if there is one, is at a path. -/
def Outcome.ofProcess (path : Option String) (p : Process) : Outcome :=
  { exit := p.exit, stdout := p.stdout, events := p.shown.toList,
    logFile := path.map (·, p.filed.toList) }

/-- The lines of a text, each with its end. -/
def linesText (lines : List String) : String := .join (lines.map (· ++ "\n"))

structure Acceptance where
  date : Bool
  range : Bool
  string : Bool
  deriving DecidableEq

namespace Acceptance

def ofToken (token : String) : Logged Acceptance :=
  let date := DateToken.read token
  let range := DateRange.read token
  let string := StringToken.read token
  ⟨date.events ++ range.events ++ string.events, ⟨date.isOk, range.isOk, string.isOk⟩⟩

def any (a : Acceptance) : Bool := a.date || a.range || a.string

def names (a : Acceptance) : List String :=
  (if a.date then ["date"] else []) ++ (if a.range then ["range"] else []) ++
    (if a.string then ["string"] else [])

/-- The answers under the names of the grammars, in the order of the alphabet. -/
def json (token : String) (a : Acceptance) : Json :=
  .object [("date", .bool a.date), ("range", .bool a.range), ("string", .bool a.string),
    ("token", .string token)]

end Acceptance

/-- The settings as JSON; `path` is the file that was looked for. -/
def settingsJson (path : String) (s : Settings) : Json :=
  .object [
    ("logging", .object [("file", .ofOption s.file), ("file_level", .ofOption s.fileLevel),
      ("level", .string s.level)]),
    ("path", .string path), ("source", .ofOption s.source), ("version", .string version)]

def settingsLines (path : String) (s : Settings) : List String :=
  ["OK   " ++ programName ++ " doctor",
   "version: " ++ version,
   "path: " ++ path,
   "source: " ++ s.source.getD "(defaults)",
   "logging.level: " ++ s.level,
   "logging.file_level: " ++ s.fileLevel.getD "-",
   "logging.file: " ++ s.file.getD "-"]

def printLines (lines : List String) : List Act := lines.map fun line => .print (line ++ "\n")

/-- The end of a run that refuses its token. An exit closes no log. -/
def refusalActs : List Act := [.closeLog, .exit refusedStatus]

def answerActs (json : Bool) (response : Logged Response) : List Act :=
  response.events.map .log ++
    if json then
      printLines [response.value.json.text] ++
        if response.value.succeeds then [] else refusalActs
    else
      match response.value with
      | .parsed (.text text) => printLines [text]
      | .parsed (.range range) => printLines [range.start.canonical, range.finish.canonical]
      | .error message => .log (.refusal message) :: refusalActs

def checkActs (json : Bool) (token : String) : List Act :=
  let accepted := Acceptance.ofToken token
  let lines := if json then [(accepted.value.json token).text] else accepted.value.names
  accepted.events.map .log ++ printLines lines ++
    if accepted.value.any then [] else .log (.unrecognized token) :: refusalActs

def doctorActs (json : Bool) (path : String) (s : Settings) : List Act :=
  .log (.doctor version) ::
    printLines (if json then [(settingsJson path s).text] else settingsLines path s)

/-- The acts of an invocation under its settings. A command that does not exit leaves the closing of
the log to the end. -/
def Invocation.acts {σ : Type} (i : Invocation) (world : World σ) (settings : Settings) : List Act :=
  let own := match i.action with
    | .date token (some today) =>
      .log (.clockPinned today) :: answerActs i.json (Response.ofDate token today.midnight)
    | .date token none => answerActs i.json (Response.ofDate token world.now)
    | .range token => answerActs i.json (Response.ofRange token)
    | .string token => answerActs i.json (Response.ofString world.source token world.state).1
    | .check token => checkActs i.json token
    | .doctor =>
      doctorActs i.json (i.config.getD (Settings.defaultPath world.environment)) settings
  own ++ [.closeLog]

def directivesVariable : String := "RUST_LOG"

/-- The directives of the environment, unless they break the run. -/
def directives? (env : Environment) : Option (List Log.Directive) :=
  Log.Directive.readAll? ((env.lookup? directivesVariable).getD "")

/-- The threshold of standard error. A level that is none counts as `info`. -/
def stderrThreshold (s : Settings) : Log.Threshold := Log.thresholdFor s.level (.upTo .info)

/-- The threshold of the log file. Without a level of its own it takes the other one, and a level
that is none counts as `debug`. -/
def fileThreshold (s : Settings) : Log.Threshold :=
  Log.thresholdFor (s.fileLevel.getD s.level) (.upTo .debug)

/-- A run whose settings are loaded and whose directives are read. -/
def Invocation.runUnder {σ : Type} (i : Invocation) (world : World σ) (settings : Settings)
    (given : List Log.Directive) : Outcome :=
  let shown := Log.Filter.ofDirectives (stderrThreshold settings) given
  let filed := Log.Filter.ofDirectives (fileThreshold settings) given
  let acts := i.acts world settings
  match settings.file with
  | none => .ofProcess none ((Process.start none).run shown acts)
  | some path =>
    if world.files.canCreate path then
      .ofProcess (some path) ((Process.start (some filed)).run shown acts)
    else { exit := unusableStatus, notice := some ("Failed to create log file " ++ path) }

/-- A run whose settings are loaded. Directives that cut a character end it. -/
def Invocation.runWith {σ : Type} (i : Invocation) (world : World σ) (settings : Settings) :
    Outcome :=
  match directives? world.environment with
  | none => { exit := brokenStatus, notice := some "a directive cuts a character" }
  | some given => i.runUnder world settings given

/-- What a doctor prints where there are no settings. -/
def failureLines (env : Environment) (config : Option String) (failure : Settings.Failure) :
    List String :=
  ["FAIL " ++ programName ++ " doctor", failure.message] ++
    match config with
    | none => ["looked for: " ++ Settings.defaultPath env]
    | some _ => []

def Invocation.runWithout {σ : Type} (i : Invocation) (world : World σ)
    (failure : Settings.Failure) : Outcome :=
  match i.action with
  | .doctor =>
    let lines := failureLines world.environment i.config failure
    { exit := unusableStatus, stdout := linesText lines }
  | _ => { exit := unusableStatus, notice := some ("Failed to load config: " ++ failure.message) }

/-- Loads the settings and does the work. What loading logs comes before there is a log. -/
def Invocation.run {σ : Type} (i : Invocation) (world : World σ) : Outcome :=
  match (Settings.load world.files world.environment i.config).outcome with
  | .ok settings => i.runWith world settings
  | .error failure => i.runWithout world failure

def helpLines : List String :=
  ["Resolve date tokens and generate dynamic test strings", "",
   "Usage: " ++ programName ++ " [OPTIONS] <COMMAND>", "",
   "Commands:",
   "  date    Resolve a date token such as [TODAY+1DAY] or [END-FEBRUARY-2024]",
   "  range   Resolve a range token such as [START-JANUARY-2024<->END-JANUARY-2024]",
   "  string  Generate text from a dynamic string token such as [ALPHA-NUMERIC-8]",
   "  check   Report which token grammar accepts a token",
   "  doctor  Validate configuration and print resolved settings",
   "  help    Print this message", "",
   "Options:",
   "      --config <CONFIG>  Read settings from this file",
   "      --json             Print the JSON response instead of the bare value",
   "  -h, --help             Print help",
   "  -V, --version          Print version"]

def run {σ : Type} (arguments : List String) (world : World σ) : Outcome :=
  match Wish.ofArguments arguments with
  | .error e => { exit := unusableStatus, notice := some e.message }
  | .ok .version => { exit := 0, stdout := linesText [programName ++ " " ++ version] }
  | .ok .help => { exit := 0, stdout := linesText helpLines }
  | .ok (.run i) => i.run world

end BracketToken.Command
