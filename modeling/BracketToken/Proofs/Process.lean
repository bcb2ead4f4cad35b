import BracketToken.Command.Outcome

/-!
What a process comes to.

A report is what acts amount to, before any threshold: the status, and all that is printed and
logged. Main statements: `run_of_amounts`, a process whose acts amount to a report ends with its
status, has printed its text, and has shown and filed all of its events that pass;
`Invocation.runUnder_eq`, every command closes its log on every way that it can take, so a run comes
to the report of its command.
-/

namespace BracketToken.Command

theorem toList_keep (filter : Log.Filter) (events : Array Event) (e : Event) :
    (keep filter events e).toList = events.toList ++ [e].filter filter.passes := by
  rw [keep]
  cases h : filter.passes e with
  | true => simp [h]
  | false => simp [h]

/-- The work of a command, before any threshold. -/
structure Report where
  exit : Nat
  stdout : String
  events : List Event

/-- What acts amount to, where the log is closed after the last event and before any exit. -/
inductive Amounts : List Act → Report → Prop
  | finish : Amounts [.closeLog] ⟨0, "", []⟩
  | exit (status : Nat) (rest : List Act) :
      Amounts (.closeLog :: .exit status :: rest) ⟨status, "", []⟩
  | print (text : String) {acts : List Act} {r : Report} (h : Amounts acts r) :
      Amounts (.print text :: acts) ⟨r.exit, text ++ r.stdout, r.events⟩
  | log (e : Event) {acts : List Act} {r : Report} (h : Amounts acts r) :
      Amounts (.log e :: acts) ⟨r.exit, r.stdout, e :: r.events⟩

namespace Process

variable (filter : Log.Filter) {acts : List Act}

/-- What the log file holds once its writer has written out what waits, and `events` after it. -/
def filedWith (p : Process) (events : List Event) : List Event :=
  p.filed.toList ++ match p.writer with
    | none => []
    | some w => w.queue.toList ++ events.filter w.filter.passes

theorem filedWith_log (p : Process) (e : Event) (events : List Event) :
    (p.step filter (.log e)).filedWith events = p.filedWith (e :: events) := by
  rw [filedWith, filedWith, step]
  cases p.writer with
  | none => rfl
  | some w =>
      simp only [Option.map_some, Writer.log, toList_keep, List.append_assoc]
      rw [← List.filter_append, List.singleton_append]

theorem run_cons {p : Process} (h : p.status = none) (act : Act) :
    p.run filter (act :: acts) = (p.step filter act).run filter acts := by
  rw [run, h]
  rfl

/-- After an exit nothing is done. -/
theorem run_of_status {p : Process} {status : Nat} (h : p.status = some status) :
    p.run filter acts = p := by
  cases acts with
  | nil => rfl
  | cons act rest =>
      rw [run, h]
      rfl

/-- From `p` on, `q` has printed, shown and filed what a report says, each log as far as its filter
lets it pass, and ends with the status of the report. -/
structure Delivers (filter : Log.Filter) (p : Process) (r : Report) (q : Process) : Prop where
  exit : q.exit = r.exit
  stdout : q.stdout = p.stdout ++ r.stdout
  shown : q.shown.toList = p.shown.toList ++ r.events.filter filter.passes
  filed : q.filed.toList = p.filedWith r.events

/-- Closing the log delivers what waits, whether the process goes on or exits. -/
theorem delivers_closeLog (p : Process) (status : Option Nat) :
    Delivers filter p ⟨status.getD 0, "", []⟩
      { p.step filter .closeLog with status := status } := by
  have hstay : (p.step filter .closeLog).stdout = p.stdout ∧
      (p.step filter .closeLog).shown = p.shown := by
    rw [step]
    cases p.writer <;> exact ⟨rfl, rfl⟩
  refine ⟨rfl, ?_, ?_, ?_⟩
  · exact hstay.1.trans (String.append_empty).symm
  · exact (congrArg Array.toList hstay.2).trans (List.append_nil _).symm
  · rw [filedWith, step]
    cases p.writer with
    | none => exact (List.append_nil _).symm
    | some w => simp

theorem status_closeLog (p : Process) : (p.step filter .closeLog).status = p.status := by
  rw [step]
  cases p.writer <;> rfl

/-- Everything that is logged is shown and filed as far as it passes, also before an exit. -/
theorem run_of_amounts {r : Report} (h : Amounts acts r) (p : Process) (hp : p.status = none) :
    Delivers filter p r (p.run filter acts) := by
  -- The process is any one: what waits in its queue grows with every event up to the closing.
  induction h generalizing p with
  | finish =>
      have hopen : (p.step filter .closeLog).status = none := (p.status_closeLog filter).trans hp
      have hsame : p.step filter .closeLog = { p.step filter .closeLog with status := none } := by
        rw [← hopen]
      rw [run_cons filter hp, run, hsame]
      exact p.delivers_closeLog filter none
  | exit status rest =>
      have hopen : (p.step filter .closeLog).status = none := (p.status_closeLog filter).trans hp
      rw [run_cons filter hp, run_cons filter hopen, run_of_status filter rfl]
      exact p.delivers_closeLog filter (some status)
  | print text h ih =>
      have hrest := ih (p.step filter (.print text)) hp
      rw [run_cons filter hp]
      refine ⟨hrest.exit, ?_, hrest.shown, hrest.filed⟩
      rw [hrest.stdout, ← String.append_assoc]
      rfl
  | log e h ih =>
      have hrest := ih (p.step filter (.log e)) hp
      rw [run_cons filter hp]
      refine ⟨hrest.exit, hrest.stdout, ?_, ?_⟩
      · rw [hrest.shown]
        change (keep filter p.shown e).toList ++ _ = _
        rw [toList_keep, List.append_assoc, ← List.filter_append, List.singleton_append]
      · rw [hrest.filed, filedWith_log]

end Process

/-! What the acts of each command amount to. -/

/-- The answer for a token as a report. In JSON a refusal is printed like a value; otherwise it is
logged. -/
def Report.ofResponse (json : Bool) (response : Logged Response) : Report :=
  let exit := if response.value.succeeds then 0 else refusedStatus
  if json then ⟨exit, linesText [response.value.json.text], response.events⟩
  else
    match response.value with
    | .parsed (.text text) => ⟨exit, linesText [text], response.events⟩
    | .parsed (.range range) =>
      ⟨exit, linesText [range.start.canonical, range.finish.canonical], response.events⟩
    | .error message => ⟨exit, "", response.events ++ [.refusal message]⟩

/-- Which grammars accept a token, as a report. A token of none is a failure. -/
def Report.ofCheck (json : Bool) (token : String) : Report :=
  let accepted := Acceptance.ofToken token
  let stdout :=
    if json then linesText [(accepted.value.json token).text] else linesText accepted.value.names
  if accepted.value.any then ⟨0, stdout, accepted.events⟩
  else
    ⟨refusedStatus, stdout, accepted.events ++ [.unrecognized token]⟩

def Report.ofDoctor (json : Bool) (path : String) (s : Settings) : Report :=
  let stdout :=
    if json then linesText [(settingsJson path s).text] else linesText (settingsLines path s)
  ⟨0, stdout, [.doctor version]⟩

/-- The work of an invocation under its settings. A date that is given goes in place of the clock,
which is logged. -/
def Invocation.perform {σ : Type} (i : Invocation) (world : World σ) (settings : Settings) :
    Report :=
  match i.action with
  | .date token (some today) =>
    let response := Response.ofDate token today.midnight
    .ofResponse i.json ⟨.clockPinned today :: response.events, response.value⟩
  | .date token none => .ofResponse i.json (Response.ofDate token world.now)
  | .range token => .ofResponse i.json (Response.ofRange token)
  | .string token => .ofResponse i.json (Response.ofString world.source token world.state).1
  | .check token => .ofCheck i.json token
  | .doctor =>
    .ofDoctor i.json (i.config.getD (Settings.defaultPath world.environment)) settings

theorem Amounts.logs {acts : List Act} {r : Report} (h : Amounts acts r) (events : List Event) :
    Amounts (events.map .log ++ acts) ⟨r.exit, r.stdout, events ++ r.events⟩ := by
  induction events with
  | nil => exact h
  | cons e events ih => exact ih.log e

theorem Amounts.prints {acts : List Act} {r : Report} (h : Amounts acts r) (lines : List String) :
    Amounts (printLines lines ++ acts) ⟨r.exit, linesText lines ++ r.stdout, r.events⟩ := by
  induction lines with
  | nil =>
      have hempty : linesText [] ++ r.stdout = r.stdout := String.empty_append
      rw [hempty]
      exact h
  | cons line lines ih =>
      have hline : linesText (line :: lines) = line ++ "\n" ++ linesText lines := by
        simp [linesText]
      rw [hline, String.append_assoc]
      exact ih.print (line ++ "\n")

/-- The end of a command that logs nothing more. A refusal exits with the log closed. -/
theorem amounts_end (accepted : Bool) :
    Amounts ((if accepted then [] else refusalActs) ++ [.closeLog])
      ⟨if accepted then 0 else refusedStatus, "", []⟩ := by
  cases accepted with
  | true => exact .finish
  | false => exact .exit refusedStatus [.closeLog]

theorem amounts_answer (json : Bool) (response : Logged Response) :
    Amounts (answerActs json response ++ [.closeLog]) (.ofResponse json response) := by
  obtain ⟨events, value⟩ := response
  have hlogs {acts : List Act} {r : Report} (h : Amounts acts r) := h.logs events
  rw [answerActs, List.append_assoc]
  cases json with
  | true =>
      rw [if_pos rfl, List.append_assoc]
      have h := hlogs ((amounts_end value.succeeds).prints [value.json.text])
      rwa [String.append_empty, List.append_nil] at h
  | false =>
      cases value with
      | parsed value =>
          cases value with
          | text text =>
              have h := hlogs (Amounts.finish.prints [text])
              rwa [String.append_empty, List.append_nil] at h
          | range range =>
              have h := hlogs (Amounts.finish.prints [range.start.canonical, range.finish.canonical])
              rwa [String.append_empty, List.append_nil] at h
      | error message => exact hlogs ((amounts_end false).log (.refusal message))

theorem amounts_check (json : Bool) (token : String) :
    Amounts (checkActs json token ++ [.closeLog]) (.ofCheck json token) := by
  rw [checkActs, Report.ofCheck]
  generalize Acceptance.ofToken token = accepted
  obtain ⟨events, a⟩ := accepted
  -- The lines are those of the report, whatever the token comes to.
  have hlines {acts : List Act} {r : Report} (h : Amounts acts r) :
      Amounts (events.map .log ++ (printLines (if json then [(a.json token).text] else a.names) ++
          acts))
        ⟨r.exit, (if json then linesText [(a.json token).text] else linesText a.names) ++ r.stdout,
          events ++ r.events⟩ := by
    have hprints := (h.prints (if json then [(a.json token).text] else a.names)).logs events
    rwa [apply_ite linesText] at hprints
  rw [List.append_assoc, List.append_assoc]
  cases a.any with
  | true =>
      have h := hlines .finish
      rwa [String.append_empty, List.append_nil] at h
  | false =>
      have h := hlines ((amounts_end false).log (.unrecognized token))
      rwa [String.append_empty] at h

theorem amounts_doctor (json : Bool) (path : String) (s : Settings) :
    Amounts (doctorActs json path s ++ [.closeLog]) (.ofDoctor json path s) := by
  have h (lines : List String) := (Amounts.finish.prints lines).log (.doctor version)
  simp only [String.append_empty] at h
  cases json with
  | true => exact h [(settingsJson path s).text]
  | false => exact h (settingsLines path s)

theorem Invocation.amounts {σ : Type} (i : Invocation) (world : World σ) (settings : Settings) :
    Amounts (i.acts world settings) (i.perform world settings) := by
  rw [acts, perform]
  cases i.action with
  | date token today =>
      cases today with
      | none => exact amounts_answer i.json _
      | some today => exact amounts_answer i.json ⟨.clockPinned today :: _, _⟩
  | range token => exact amounts_answer i.json _
  | string token => exact amounts_answer i.json _
  | check token => exact amounts_check i.json token
  | doctor => exact amounts_doctor i.json _ settings

/-- A process comes to the report that its acts amount to. Its logs hold the events of the report
that their filters let pass. -/
theorem Outcome.ofProcess_eq {acts : List Act} {r : Report} (h : Amounts acts r)
    (shown : Log.Filter) (file : Option (String × Log.Filter)) :
    ofProcess (file.map (·.1)) ((Process.start (file.map (·.2))).run shown acts) =
      { exit := r.exit, stdout := r.stdout, events := r.events.filter shown.passes,
        logFile := file.map fun f => (f.1, r.events.filter f.2.passes) } := by
  obtain ⟨hexit, hstdout, hshown, hfiled⟩ :=
    Process.run_of_amounts shown h (Process.start (file.map (·.2))) rfl
  rw [ofProcess, hexit, hstdout, hshown, hfiled]
  have hstart : (Process.start (file.map (·.2))).stdout ++ r.stdout = r.stdout :=
    String.empty_append
  rw [hstart]
  cases file with
  | none => rfl
  | some file => rfl

/-- The events that pass where directives go over a threshold. -/
def passing (threshold : Log.Threshold) (given : List Log.Directive) (events : List Event) :
    List Event :=
  events.filter (Log.Filter.ofDirectives threshold given).passes

theorem Invocation.runUnder_eq {σ : Type} (i : Invocation) (world : World σ) (settings : Settings)
    (given : List Log.Directive) :
    i.runUnder world settings given =
      let report := i.perform world settings
      let shown := passing (stderrThreshold settings) given report.events
      match settings.file with
      | none => { exit := report.exit, stdout := report.stdout, events := shown }
      | some path =>
        if world.files.canCreate path then
          let filed := passing (fileThreshold settings) given report.events
          { exit := report.exit, stdout := report.stdout, events := shown,
            logFile := some (path, filed) }
        else { exit := unusableStatus, notice := some ("Failed to create log file " ++ path) } := by
  have hprocess := Outcome.ofProcess_eq (i.amounts world settings)
    (.ofDirectives (stderrThreshold settings) given)
  rw [runUnder]
  cases settings.file with
  | none => exact hprocess none
  | some path =>
      dsimp only
      split
      · exact hprocess (some (path, .ofDirectives (fileThreshold settings) given))
      · rfl

end BracketToken.Command
