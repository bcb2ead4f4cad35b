import BracketToken.Proofs.LevelNames
import BracketToken.Proofs.Output

/-!
The two logs of a run: standard error and the log file.

Main statements: `TokenCommand.logs_whole`, on every way that a command on a token can end, each log
shows what the command logs, as far as its own threshold lets it pass;
`Invocation.filed_eq_shown_iff`, without a level of its own the log file shows what standard error
shows, unless the level names no threshold: the two then fall back to different ones.
-/

namespace BracketToken

/-- Nothing is logged as a warning or below debugging. -/
theorem Event.level_mem (e : Event) : e.level = .error ∨ e.level = .info ∨ e.level = .debug := by
  cases e <;> simp [level]

namespace Log

theorem thresholdFor_of_names {level : String} {t : Threshold} (h : t.Names level)
    (unknown : Threshold) : thresholdFor level unknown = t := by
  rw [thresholdFor, Threshold.read?_eq_some_iff.2 h]
  rfl

theorem thresholdFor_of_unknown {level : String} (h : ∀ t : Threshold, ¬ t.Names level)
    (unknown : Threshold) : thresholdFor level unknown = unknown := by
  rw [thresholdFor, Threshold.read?_eq_none_iff.2 h]
  rfl

theorem filter_upTo_debug (events : List Event) :
    events.filter ((Threshold.upTo .debug).passes ·.level) = events := by
  rw [List.filter_eq_self]
  intro e he
  obtain h | h | h := e.level_mem <;> rw [h] <;> rfl

theorem filter_upTo_info (events : List Event) :
    events.filter ((Threshold.upTo .info).passes ·.level) = events.filter (·.level ≠ .debug) := by
  apply List.filter_congr
  intro e he
  obtain h | h | h := e.level_mem <;> rw [h] <;> rfl

end Log

namespace Command

open Calendar Log

/-- Where no directives are set, a run that is configured gets to its command. -/
theorem World.Configured.ready {σ : Type} {world : World σ} {config : Option String}
    {settings : Settings} (h : world.Configured config settings)
    (hunset : world.environment.lookup? directivesVariable = none) :
    world.Ready config settings [] := by
  refine ⟨h, ?_⟩
  rw [directives?, hunset]
  rfl

theorem Report.events_ofResponse (json : Bool) (response : Logged Response) :
    (ofResponse json response).events = response.events ++
      match response.value with
      | .parsed _ => []
      | .error message => if json then [] else [.refusal message] := by
  obtain ⟨events, value⟩ := response
  rw [ofResponse]
  cases json with
  | true => cases value <;> exact (List.append_nil events).symm
  | false =>
      cases value with
      | error message => rfl
      | parsed value => cases value <;> exact (List.append_nil events).symm

/-- A command on one token that looks at no clock, or a check. -/
inductive TokenCommand
  | answer (q : Query)
  | check (token : String)

namespace TokenCommand

variable {σ : Type}

def action : TokenCommand → Action
  | answer q => q.action
  | check token => .check token

/-- What the calls of the library log, in their order, and that the clock is pinned before them. -/
def calls (world : World σ) : TokenCommand → List Event
  | answer q => (q.answer world.source world.state).events
  | check token =>
    (DateToken.read token).events ++ (DateRange.read token).events ++
      (StringToken.read token).events

/-- The failure to be logged where the token is rejected. -/
def failure? (world : World σ) : TokenCommand → Option Event
  | answer q =>
    match (q.answer world.source world.state).value with
    | .parsed _ => none
    | .error message => some (.refusal message)
  | check token =>
    if DateToken.accepts token || DateRange.accepts token || StringToken.accepts token then none
    else some (.unrecognized token)

/-- Whether a failure goes to the log. What an answer says in JSON is not logged as well. -/
def logsFailure (json : Bool) : TokenCommand → Bool
  | answer _ => !json
  | check _ => true

/-- Everything that a run logs once its settings are loaded. -/
def trace (c : TokenCommand) (json : Bool) (world : World σ) : List Event :=
  c.calls world ++ if c.logsFailure json then (c.failure? world).toList else []

theorem calls_check (token : String) (world : World σ) :
    (check token).calls world = (Acceptance.ofToken token).events := rfl

theorem failure?_check (token : String) (world : World σ) :
    (check token).failure? world =
      if (Acceptance.ofToken token).value.any then none else some (.unrecognized token) := rfl

theorem perform_eq (c : TokenCommand) (config : Option String) (json : Bool) (world : World σ)
    (settings : Settings) :
    (Invocation.perform ⟨config, json, c.action⟩ world settings).exit =
        (if (c.failure? world).isSome then 1 else 0) ∧
      (Invocation.perform ⟨config, json, c.action⟩ world settings).events = c.trace json world := by
  cases c with
  | answer q =>
      rw [action, q.perform_eq, Query.report, Report.exit_eq, Report.events_ofResponse, trace,
        calls, logsFailure, failure?]
      cases (q.answer world.source world.state).value with
      | parsed value => cases json <;> exact ⟨rfl, rfl⟩
      | error message => cases json <;> exact ⟨rfl, rfl⟩
  | check token =>
      have hperform : Invocation.perform ⟨config, json, (check token).action⟩ world settings =
          .ofCheck json token := rfl
      rw [hperform, Report.ofCheck, trace, calls_check, logsFailure, failure?_check]
      cases (Acceptance.ofToken token).value.any with
      | true => exact ⟨rfl, (List.append_nil _).symm⟩
      | false => exact ⟨rfl, rfl⟩

theorem onlyDebug_calls (c : TokenCommand) (world : World σ) : OnlyDebug (c.calls world) := by
  cases c with
  | answer q => exact q.onlyDebug_answer world.source world.state
  | check token =>
      have hread := (DateToken.onlyDebug_read token).append (DateRange.onlyDebug_read token)
      exact hread.append (StringToken.onlyDebug_read token)

theorem level_failure (c : TokenCommand) (world : World σ) :
    ∀ e ∈ c.failure? world, e.level = .error := by
  intro e he
  cases c with
  | answer q =>
      rw [failure?] at he
      cases hvalue : (q.answer world.source world.state).value with
      | parsed value => simp [hvalue] at he
      | error message =>
          simp only [hvalue, Option.mem_some_iff] at he
          exact he ▸ rfl
  | check token =>
      rw [failure?_check] at he
      cases hany : (Acceptance.ofToken token).value.any with
      | true => simp [hany] at he
      | false =>
          simp only [hany, Bool.false_eq_true, if_false, Option.mem_some_iff] at he
          exact he ▸ rfl

/-- No way to end a run loses an event or adds one: each log is the trace of the run, as far as the
threshold of the log lets it pass. The trace is for debugging, up to one error where the token is
rejected. -/
theorem logs_whole (c : TokenCommand) (config : Option String) (json : Bool) {world : World σ}
    {settings : Settings} {shown filed : Threshold} (h : world.Configured config settings)
    (hunset : world.environment.lookup? directivesVariable = none)
    (hshown : shown.Names settings.level)
    (hfiled : filed.Names (settings.fileLevel.getD settings.level)) :
    let outcome := Invocation.run ⟨config, json, c.action⟩ world
    (outcome.exit = (if (c.failure? world).isSome then 1 else 0) ∧
        outcome.events = (c.trace json world).filter (shown.passes ·.level) ∧
        outcome.logFile = settings.file.map fun path =>
          (path, (c.trace json world).filter (filed.passes ·.level))) ∧
      OnlyDebug (c.calls world) ∧ ∀ e ∈ c.failure? world, e.level = .error := by
  obtain ⟨hexit, hevents⟩ := c.perform_eq config json world settings
  have hrun := Invocation.run_eq_of_ready ⟨config, json, c.action⟩ (h.ready hunset)
  rw [stderrThreshold, thresholdFor_of_names hshown, fileThreshold, thresholdFor_of_names hfiled,
    hexit, hevents] at hrun
  intro outcome
  have houtcome : outcome = _ := hrun
  rw [houtcome]
  exact ⟨⟨rfl, rfl, rfl⟩, c.onlyDebug_calls world, c.level_failure world⟩

/-- A range whose second half is rejected: standard error shows the failure alone, and the log file
all that led to it. -/
theorem logs_whole_half :
    let text := "version = 1\nlogging = [\" Warn\", \"DEBUG\\t\", \"./day.log\"]"
    let files : Directory := ⟨[(["settings.toml"], text.toUTF8)], []⟩
    let first : Date := ⟨1, 1, 1, by decide, by decide, by decide⟩
    let world : World Nat :=
      ⟨⟨fun _ => none, none⟩, files.fileSystem, first.midnight, .replay #[0], 0⟩
    let settings : Settings := ⟨some "settings.toml", " Warn", some "DEBUG\t", some "./day.log"⟩
    let token := "[START-MAY-2024<->END-MAI-2024]"
    let reason := DateToken.Error.invalidFormat token
    let trace : List Event :=
      [.readingRangeToken token, .rangeHalfRejected token "END-MAI-2024" (.invalidMonth "MAI"),
        .rangeTokenRejected token reason, .refusal reason.message]
    let outcome := Invocation.run ⟨some "settings.toml", false, .range token⟩ world
    (world.Configured (some "settings.toml") settings ∧ (Threshold.upTo .warn).Names " Warn" ∧
        (Threshold.upTo .debug).Names "DEBUG\t") ∧
      outcome.exit = 1 ∧ outcome.events = [.refusal reason.message] ∧
        outcome.logFile = some ("./day.log", trace) := by
  intro text files first world settings token reason trace outcome
  have hconfigured : world.Configured (some "settings.toml") settings :=
    ⟨by decide +kernel, by decide +kernel⟩
  have hshown : (Threshold.upTo .warn).Names " Warn" := by decide +kernel
  have hfiled : (Threshold.upTo .debug).Names "DEBUG\t" := by decide +kernel
  have htrace : (answer (.range token)).trace false world = trace := by decide +kernel
  have hfailure : (answer (.range token)).failure? world = some (.refusal reason.message) := by
    decide +kernel
  obtain ⟨⟨hexit, hevents, hlog⟩, -⟩ :=
    logs_whole (answer (.range token)) (some "settings.toml") false hconfigured rfl hshown hfiled
  rw [htrace] at hevents hlog
  rw [hfailure] at hexit
  exact ⟨⟨hconfigured, hshown, hfiled⟩, hexit, hevents.trans (by decide), hlog.trans (by decide)⟩

end TokenCommand

/-- A log file without a level of its own. Where the level names a threshold, the log file shows
what standard error shows; where it names none, the log file takes everything and standard error
leaves out what is for debugging. So the two differ exactly where such a level meets an event for
debugging. -/
theorem Invocation.filed_eq_shown_iff {σ : Type} (i : Invocation) {world : World σ}
    {settings : Settings} {path : String} (h : world.Configured i.config settings)
    (hunset : world.environment.lookup? directivesVariable = none)
    (hfile : settings.file = some path) (hnone : settings.fileLevel = none) :
    let said := (i.perform world settings).events
    let outcome := i.run world
    (∀ t : Threshold, t.Names settings.level →
        outcome.events = said.filter (t.passes ·.level) ∧
          outcome.logFile = some (path, said.filter (t.passes ·.level))) ∧
      ((∀ t : Threshold, ¬ t.Names settings.level) →
        outcome.events = said.filter (·.level ≠ .debug) ∧ outcome.logFile = some (path, said)) ∧
      (outcome.logFile = some (path, outcome.events) ↔
        (∃ t : Threshold, t.Names settings.level) ∨ ∀ e ∈ said, e.level ≠ .debug) := by
  intro said outcome
  have hrun := i.run_eq_of_ready (h.ready hunset)
  rw [stderrThreshold, fileThreshold, hfile, hnone, Option.getD_none] at hrun
  have houtcome : outcome = _ := hrun
  have hknown : ∀ t : Threshold, t.Names settings.level →
      outcome.events = said.filter (t.passes ·.level) ∧
        outcome.logFile = some (path, said.filter (t.passes ·.level)) := by
    intro t ht
    rw [houtcome, thresholdFor_of_names ht, thresholdFor_of_names ht]
    exact ⟨rfl, rfl⟩
  -- Both logs are given the same text, but each falls back to a threshold of its own.
  have hunknown : (∀ t : Threshold, ¬ t.Names settings.level) →
      outcome.events = said.filter (·.level ≠ .debug) ∧ outcome.logFile = some (path, said) := by
    intro hnames
    rw [houtcome, thresholdFor_of_unknown hnames, thresholdFor_of_unknown hnames]
    refine ⟨filter_upTo_info said, ?_⟩
    exact congrArg (fun events => some (path, events)) (filter_upTo_debug said)
  refine ⟨hknown, hunknown, ?_⟩
  by_cases hnames : ∃ t : Threshold, t.Names settings.level
  · obtain ⟨t, ht⟩ := hnames
    obtain ⟨hevents, hlog⟩ := hknown t ht
    exact ⟨fun _ => .inl ⟨t, ht⟩, fun _ => by rw [hlog, hevents]⟩
  · obtain ⟨hevents, hlog⟩ := hunknown (not_exists.1 hnames)
    rw [hevents, hlog, or_iff_right hnames, Option.some.injEq, Prod.mk.injEq,
      and_iff_right rfl, eq_comm, List.filter_eq_self]
    simp only [decide_eq_true_eq]

/-- A doctor has nothing for debugging to say, so even under a level that is none its logs are the
same. -/
theorem Invocation.filed_eq_shown_doctor :
    let text := "version = 1\nlogging.level = \"loud\"\nlogging.file = \"./day.log\""
    let files : Directory := ⟨[(["settings.toml"], text.toUTF8)], []⟩
    let first : Date := ⟨1, 1, 1, by decide, by decide, by decide⟩
    let world : World Nat :=
      ⟨⟨fun _ => none, none⟩, files.fileSystem, first.midnight, .replay #[0], 0⟩
    let settings : Settings := ⟨some "settings.toml", "loud", none, some "./day.log"⟩
    let outcome := Invocation.run ⟨some "settings.toml", true, .doctor⟩ world
    (world.Configured (some "settings.toml") settings ∧ ∀ t : Threshold, ¬ t.Names "loud") ∧
      outcome.events = [.doctor version] ∧ outcome.logFile = some ("./day.log", outcome.events) := by
  intro text files first world settings outcome
  have hconfigured : world.Configured (some "settings.toml") settings :=
    ⟨by decide +kernel, by decide +kernel⟩
  have hnames : ∀ t : Threshold, ¬ t.Names "loud" :=
    Threshold.read?_eq_none_iff.1 (by decide +kernel)
  obtain ⟨-, hunknown, hiff⟩ := filed_eq_shown_iff ⟨some "settings.toml", true, .doctor⟩
    hconfigured rfl (rfl : settings.file = some "./day.log") rfl
  refine ⟨⟨hconfigured, hnames⟩, (hunknown hnames).1.trans (by decide), hiff.2 (.inr (by decide))⟩

/-- A level that is none: the log file has an event that standard error leaves out. -/
theorem filed_ne_shown_loud :
    let text := "version = 1\n[logging]\nlevel = \"loud\"\nfile = \"run.log\"\n"
    let files : Directory := ⟨[(["c.toml"], text.toUTF8)], []⟩
    let first : Date := ⟨1, 1, 1, by decide, by decide, by decide⟩
    let world : World Nat :=
      ⟨⟨fun _ => none, none⟩, files.fileSystem, first.midnight, .replay #[0], 0⟩
    let token := "[START-MAY-2024<->END-MAY-2024]"
    let outcome := run ["--config", "c.toml", "range", token] world
    world.Configured (some "c.toml") ⟨some "c.toml", "loud", none, some "run.log"⟩ ∧
      outcome.logFile = some ("run.log", [.readingRangeToken token]) ∧ outcome.events = [] ∧
        outcome.logFile ≠ some ("run.log", outcome.events) := by
  intro text files first world token outcome
  have hlog : outcome.logFile = some ("run.log", [.readingRangeToken token]) := by decide +kernel
  have hevents : outcome.events = [] := by decide +kernel
  refine ⟨⟨by decide +kernel, by decide +kernel⟩, hlog, hevents, ?_⟩
  rw [hlog, hevents]
  decide

end Command

end BracketToken
