import BracketToken.Calendar.Epoch
import BracketToken.Command.Outcome
import BracketToken.Log.Line
import Std.Time.DateTime.Timestamp

/-!
The program: gathers what a run depends on, runs it, and prints what it comes to.
-/

namespace BracketToken.Command

open Calendar

def systemInstant : IO Instant := do
  let seconds := (← Std.Time.Timestamp.now).toSecondsSinceUnixEpoch.val
  match Instant.ofEpochSeconds? seconds with
  | some now => return now
  | none => throw (IO.userError "the clock is outside the calendar")

def systemGenerator : IO StdGen := do
  let bytes ← IO.getRandomBytes 8
  return mkStdGen (bytes.foldl (fun n b => n * 256 + b.toNat) 0)

/-- The environment as far as the named variables show it. -/
def environmentOf (names : List String) : IO Environment := do
  let pairs ← names.filterMapM fun name => do
    return (← IO.getEnv name).map fun value => (name, value)
  return ⟨fun name => pairs.lookup name, none⟩

/-- What stands at a path. A path through something that is no directory leads nowhere; a directory
is found by the failure to read it. -/
def entryAt (path : String) : IO (Option FileEntry) := do
  try
    return some (.file (← IO.FS.readBinFile path))
  catch
    | .noFileOrDirectory .. => return none
    | .inappropriateType (some _) .. => return none
    | .invalidArgument .. => return none
    | .permissionDenied .. => return some .locked
    | _ => return some .directory

/-- Whether a file could be made or emptied at a path. -/
def create (path : String) : IO Bool := do
  try
    IO.FS.writeFile path ""
    return true
  catch _ => return false

/-- The variables that every run asks for. -/
def ownVariables : List String :=
  ["HOME", "XDG_CONFIG_HOME", Settings.levelVariable, directivesVariable]

/-- The variables that the settings in a file ask for. -/
def variablesIn (path : String) (entry : FileEntry) : List String :=
  match (Settings.textAt path entry).toOption.bind fun t => (Settings.Document.read t).toOption with
  | some ⟨_, _, _, some file⟩ => Settings.mentioned file
  | _ => []

/-- The surroundings of an invocation. The one file that is read is the one with its settings, and
the one that may be made is the log file that they name. -/
def surroundings (i : Invocation) : IO (World StdGen) := do
  let own ← environmentOf ownVariables
  let path := i.config.getD (Settings.defaultPath own)
  let entry ← entryAt path
  let mentioned := (entry.map (variablesIn path)).getD []
  let environment ← environmentOf (ownVariables ++ mentioned)
  let readOnly : FileSystem :=
    ⟨fun p => if p = path then entry else none, fun _ => false⟩
  let loaded := (Settings.load readOnly environment i.config).outcome
  let created ← match loaded, directives? environment with
    | .ok ⟨_, _, _, some file⟩, some _ => do
      let made ← create file
      pure (if made then some file else none)
    | _, _ => pure none
  let files := { readOnly with canCreate := fun p => some p = created }
  return ⟨environment, files, ← systemInstant, .generator, ← systemGenerator⟩

def logText (now : Instant) (events : List Event) : String :=
  linesText (events.map fun e => now.canonical ++ " " ++ Log.line e)

/-- Prints what a run comes to and fills its log file. -/
def report (now : Instant) (outcome : Outcome) : IO UInt32 := do
  match outcome.notice with
  | some notice => IO.eprintln notice
  | none => pure ()
  IO.eprint (logText now outcome.events)
  match outcome.logFile with
  | some (path, events) => IO.FS.writeFile path (logText now events)
  | none => pure ()
  IO.print outcome.stdout
  return outcome.exit.toUInt32

/-- Runs the program. A command line that asks for no command needs no surroundings. -/
def execute (arguments : List String) : IO UInt32 := do
  let now ← systemInstant
  match Wish.ofArguments arguments with
  | .ok (.run i) => report now (i.run (← surroundings i))
  | _ =>
    let nothing : FileSystem := ⟨fun _ => none, fun _ => false⟩
    let world : World StdGen := ⟨← environmentOf [], nothing, now, .generator, mkStdGen 0⟩
    report now (run arguments world)

end BracketToken.Command

def main (arguments : List String) : IO UInt32 := BracketToken.Command.execute arguments
