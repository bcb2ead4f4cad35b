import BracketToken.Log.Filter

/-!
A run of a command, act by act.

Standard output and standard error show at once what is given to them. The log file does not: what is
logged waits in a queue, and closing the log writes it out. A run that exits leaves everything as it
is, so what waits then is lost, and what is logged after closing reaches no file at all.
-/

namespace BracketToken.Command

inductive Act
  | print (text : String)
  | log (event : Event)
  /-- Writes out what waits for the log file, and ends the writing to it. -/
  | closeLog
  | exit (status : Nat)

/-- An open log file: what it lets pass, and what waits for it. -/
structure Writer where
  filter : Log.Filter
  queue : Array Event := #[]

structure Process where
  stdout : String := ""
  /-- What standard error shows of the log. -/
  shown : Array Event := #[]
  writer : Option Writer := none
  /-- What the log file holds. -/
  filed : Array Event := #[]
  /-- The status that an exit gave. -/
  status : Option Nat := none

def keep (filter : Log.Filter) (events : Array Event) (e : Event) : Array Event :=
  if filter.passes e then events.push e else events

def Writer.log (w : Writer) (e : Event) : Writer := { w with queue := keep w.filter w.queue e }

namespace Process

/-- A process before its first act; a log file is open if it has a filter. -/
def start (filed : Option Log.Filter) : Process := { writer := filed.map fun filter => ⟨filter, #[]⟩ }

/-- One act; `filter` is that of standard error. -/
def step (filter : Log.Filter) (p : Process) : Act → Process
  | .print text => { p with stdout := p.stdout ++ text }
  | .log e => { p with shown := keep filter p.shown e, writer := p.writer.map (·.log e) }
  | .closeLog =>
    match p.writer with
    | none => p
    | some w => { p with filed := p.filed ++ w.queue, writer := none }
  | .exit status => { p with status := some status }

/-- Does acts in order up to an exit. -/
def run (filter : Log.Filter) (p : Process) : List Act → Process
  | [] => p
  | act :: rest => if p.status.isSome then p else (p.step filter act).run filter rest

/-- The status that the process ends with. Without an exit all went well. -/
def exit (p : Process) : Nat := p.status.getD 0

end Process

end BracketToken.Command
