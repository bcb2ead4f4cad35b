import BracketToken.Proofs.Agreement
import BracketToken.Proofs.Trace

/-!
What a run on one token prints, and the status that it ends with.

Main statement: `conforms_iff`, a run that cannot be configured prints nothing and ends with 2, and
any other ends with 0 or 1 as its token is taken or refused, and says the same in JSON and in plain
words. Only directives that cut a character break this. No setting of the log changes what is
printed, or the status.
-/

namespace BracketToken.Command

open Calendar

/-- A command on one token that looks at no clock. -/
inductive Query
  | date (token : String) (today : Date)
  | range (token : String)
  | string (token : String)

/-- What JSON says, in plain words: the text for standard output, and the failures to be logged. -/
inductive Plain : Json → String → List Event → Prop
  | text (text : String) :
      Plain (.object [("ParsedToken", .string text)]) (text ++ "\n") []
  | range (start finish : String) :
      Plain (.object [("ParsedToken", .object [("Start", .string start), ("End", .string finish)])])
        (start ++ "\n" ++ finish ++ "\n") []
  | refusal (message : String) :
      Plain (.object [("Error", .string message)]) "" [.refusal message]

theorem linesText_pair (first second : String) :
    linesText [first, second] = first ++ "\n" ++ second ++ "\n" := by
  simp [linesText, String.append_assoc]

/-- Without JSON a report says what the response says in JSON. -/
theorem Report.plain_ofResponse {response : Logged Response} (h : OnlyDebug response.events) :
    Plain response.value.json (ofResponse false response).stdout
      (failures (ofResponse false response).events) := by
  obtain ⟨events, value⟩ := response
  have hquiet : failures events = [] := h.failures_eq_nil
  cases value with
  | parsed value =>
      cases value with
      | text text =>
          change Plain _ (linesText [text]) (failures events)
          rw [hquiet, linesText_singleton]
          exact .text text
      | range range =>
          change Plain _ (linesText [range.start.canonical, range.finish.canonical])
            (failures events)
          rw [hquiet, linesText_pair]
          exact .range range.start.canonical range.finish.canonical
  | error message =>
      change Plain _ "" (failures (events ++ [.refusal message]))
      rw [h.failures_append message]
      exact .refusal message

namespace Query

variable {σ : Type}

def action : Query → Action
  | date token today => .date token (some today)
  | range token => .range token
  | string token => .string token

/-- The response to the token, and what is logged on the way to it. -/
def answer (source : StringToken.IndexSource σ) (s : σ) : Query → Logged Response
  | date token today =>
    let response := Response.ofDate token today.midnight
    ⟨.clockPinned today :: response.events, response.value⟩
  | range token => Response.ofRange token
  | string token => (Response.ofString source token s).1

def run (q : Query) (config : Option String) (json : Bool) (world : World σ) : Outcome :=
  Invocation.run ⟨config, json, q.action⟩ world

/-- What a run on the token comes to, before any threshold. -/
def report (q : Query) (json : Bool) (world : World σ) : Report :=
  .ofResponse json (q.answer world.source world.state)

/-- A run with settings answers its token. -/
structure Answers (q : Query) (config : Option String) (world : World σ) (settings : Settings) :
    Prop where
  exit : ∀ json, (q.run config json world).exit =
    if (q.answer world.source world.state).value.succeeds then 0 else 1
  json : (q.run config true world).stdout =
    (q.answer world.source world.state).value.json.text ++ "\n"
  plain : ∃ said, Json.read? (q.run config true world).stdout = some said ∧
    Plain said (q.run config false world).stdout
      (failures (q.report false world).events)
  shown : (q.run config false world).events =
    passing (stderrThreshold settings) ((directives? world.environment).getD [])
      (q.report false world).events
  filed : (q.run config false world).logFile = settings.file.map fun path =>
    (path, passing (fileThreshold settings) ((directives? world.environment).getD [])
      (q.report false world).events)

/-- A run is one of two: it is not configured and ends at once, or it answers its token. -/
structure Conforms (q : Query) (config : Option String) (world : World σ) : Prop where
  unusable : (∀ settings, ¬ world.Configured config settings) →
    ∀ json, (q.run config json world).exit = 2 ∧ (q.run config json world).stdout = ""
  answers : ∀ settings, world.Configured config settings → q.Answers config world settings

variable {world : World σ} {config : Option String} {settings : Settings}
  {given : List Log.Directive}

theorem perform_eq (q : Query) (config : Option String) (json : Bool) (world : World σ)
    (settings : Settings) :
    Invocation.perform ⟨config, json, q.action⟩ world settings = q.report json world := by
  cases q <;> rfl

theorem onlyDebug_answer (q : Query) (source : StringToken.IndexSource σ) (s : σ) :
    OnlyDebug (q.answer source s).events := by
  cases q with
  | date token today => exact (Response.onlyDebug_ofDate token today.midnight).cons rfl
  | range token => exact Response.onlyDebug_ofRange token
  | string token => exact Response.onlyDebug_ofString source token s

theorem run_of_ready (q : Query) (json : Bool) (h : world.Ready config settings given) :
    (q.run config json world).exit = (q.report json world).exit ∧
      (q.run config json world).stdout = (q.report json world).stdout := by
  have hrun := Invocation.run_of_ready ⟨config, json, q.action⟩ h
  rw [perform_eq] at hrun
  exact ⟨hrun.1, hrun.2.1⟩

theorem answers_of_ready (q : Query) (h : world.Ready config settings given) :
    q.Answers config world settings := by
  have hrun := fun json => Invocation.run_eq_of_ready ⟨config, json, q.action⟩ h
  simp only [perform_eq] at hrun
  have hjson : (q.run config true world).stdout =
      linesText [(q.answer world.source world.state).value.json.text] := by
    rw [run, hrun]
    rfl
  refine ⟨?_, ?_, ?_, ?_, ?_⟩
  · intro json
    rw [run, hrun]
    exact Report.exit_eq json _
  · rw [hjson, linesText_singleton]
  · refine ⟨(q.answer world.source world.state).value.json, ?_, ?_⟩
    · rw [hjson, read?_line]
    · rw [run, hrun]
      exact Report.plain_ofResponse (q.onlyDebug_answer _ _)
  · rw [run, hrun, h.reads]
    rfl
  · rw [run, hrun, h.reads]
    rfl

theorem run_of_load_error (q : Query) (json : Bool) {failure : Settings.Failure}
    (h : (Settings.load world.files world.environment config).outcome = .error failure) :
    (q.run config json world).exit = 2 ∧ (q.run config json world).stdout = "" := by
  rw [run, Invocation.run, h]
  cases q <;> exact ⟨rfl, rfl⟩

theorem run_of_cut (q : Query) (json : Bool)
    (h : (Settings.load world.files world.environment config).outcome = .ok settings)
    (hcut : directives? world.environment = none) : (q.run config json world).exit = 101 :=
  (Invocation.run_of_cut ⟨config, json, q.action⟩ h hcut).1

theorem run_of_no_file (q : Query) (json : Bool)
    (h : (Settings.load world.files world.environment config).outcome = .ok settings)
    (hreads : directives? world.environment = some given)
    (hfile : ¬ ∀ path ∈ settings.file, world.files.canCreate path = true) :
    (q.run config json world).exit = 2 ∧ (q.run config json world).stdout = "" := by
  rw [run, Invocation.run, h]
  dsimp only
  rw [Invocation.runWith, hreads]
  dsimp only
  rw [Invocation.runUnder_eq]
  cases hpath : settings.file with
  | none => exact absurd (by simp [hpath]) hfile
  | some path =>
      have hno : ¬ world.files.canCreate path = true := by
        intro hyes
        apply hfile
        intro other hother
        rw [hpath, Option.mem_some_iff] at hother
        exact hother ▸ hyes
      dsimp only
      rw [if_neg hno]
      exact ⟨rfl, rfl⟩

theorem conforms_of_reads (q : Query) (config : Option String)
    (hreads : directives? world.environment = some given) : q.Conforms config world := by
  constructor
  · intro hnone json
    cases hload : (Settings.load world.files world.environment config).outcome with
    | error failure => exact q.run_of_load_error json hload
    | ok settings =>
        apply q.run_of_no_file json hload hreads
        exact fun hcreates => hnone settings ⟨hload, hcreates⟩
  · intro settings h
    exact q.answers_of_ready ⟨h, hreads⟩

theorem not_conforms_of_cut (q : Query)
    (hload : (Settings.load world.files world.environment config).outcome = .ok settings)
    (hcut : directives? world.environment = none) : ¬ q.Conforms config world := by
  intro h
  -- The status is then 101: neither that of an answer nor that of a run without configuration.
  have hexit := q.run_of_cut false hload hcut
  by_cases hconfigured : ∃ settings, world.Configured config settings
  · obtain ⟨settings, hsettings⟩ := hconfigured
    rw [(h.answers settings hsettings).exit false] at hexit
    split at hexit <;> cases hexit
  · have hunusable := (h.unusable (not_exists.1 hconfigured) false).1
    rw [hexit] at hunusable
    cases hunusable

theorem conforms_iff (q : Query) (config : Option String) (world : World σ) :
    (q.Conforms config world ↔ (∃ given, directives? world.environment = some given) ∨
      ∃ failure, (Settings.load world.files world.environment config).outcome = .error failure) ∧
    ∀ config' (other : World σ) settings settings' given given',
      world.Ready config settings given → other.Ready config' settings' given' →
      other.source = world.source → other.state = world.state → ∀ json,
        (q.run config' json other).exit = (q.run config json world).exit ∧
          (q.run config' json other).stdout = (q.run config json world).stdout := by
  refine ⟨⟨?_, ?_⟩, ?_⟩
  · intro h
    cases hreads : directives? world.environment with
    | some given => exact .inl ⟨given, rfl⟩
    | none =>
        cases hload : (Settings.load world.files world.environment config).outcome with
        | error failure => exact .inr ⟨failure, rfl⟩
        | ok settings => exact absurd h (q.not_conforms_of_cut hload hreads)
  · rintro (⟨given, hreads⟩ | ⟨failure, hload⟩)
    · exact q.conforms_of_reads config hreads
    · refine ⟨fun _ json => q.run_of_load_error json hload, ?_⟩
      intro settings h
      rw [h.loads] at hload
      cases hload
  · intro config' other settings settings' given given' h h' hsource hstate json
    have hreport : q.report json other = q.report json world := by
      rw [report, report, hsource, hstate]
    obtain ⟨hexit, hstdout⟩ := q.run_of_ready json h
    obtain ⟨hexit', hstdout'⟩ := q.run_of_ready json h'
    rw [hexit, hstdout, hexit', hstdout', hreport]
    exact ⟨rfl, rfl⟩

/-- A log that goes to a file, and one that goes nowhere at all. -/
theorem conforms_two_logs :
    let text := "version = 1\nlogging = [\"error\", \"trace\", \"./day.log\"]"
    let files : Directory := ⟨[(["settings.toml"], text.toUTF8)], []⟩
    let first : Date := ⟨1, 1, 1, by decide, by decide, by decide⟩
    let world : World Nat :=
      ⟨⟨fun _ => none, none⟩, files.fileSystem, first.midnight, .replay #[7, 1, 12], 0⟩
    let pairs := [("HOME", "/"), ("RUST_LOG", "off,tokenparser::cmd=error")]
    let other : World Nat := { world with environment := ⟨fun name => pairs.lookup name, none⟩ }
    let settings : Settings := ⟨some "settings.toml", "error", some "trace", some "./day.log"⟩
    ∃ given, (world.Ready (some "settings.toml") settings [] ∧ other.Ready none .default given) ∧
      ((string "[NUMERIC-3-LINES-2]").run none true other).stdout =
        ((string "[NUMERIC-3-LINES-2]").run (some "settings.toml") true world).stdout := by
  intro text files first world pairs other settings
  have hready : world.Ready (some "settings.toml") settings [] :=
    ⟨⟨by decide +kernel, by decide +kernel⟩, by decide +kernel⟩
  obtain ⟨given, hgiven⟩ := Option.isSome_iff_exists.1
    (show (directives? other.environment).isSome by decide +kernel)
  have hother : other.Ready none .default given :=
    ⟨⟨by decide +kernel, by decide +kernel⟩, hgiven⟩
  have hsame := (conforms_iff (string "[NUMERIC-3-LINES-2]") (some "settings.toml") world).2
  exact ⟨given, ⟨hready, hother⟩, (hsame none other _ _ _ _ hready hother rfl rfl true).2⟩

/-- A directive with a blank before it is cut in the middle of its first letter, and the run breaks
before it looks at a token that it would have taken. -/
theorem not_conforms_cut_letter :
    let today : Date := ⟨2024, 2, 29, by decide, by decide, by decide⟩
    let nothing : Directory := ⟨[], []⟩
    let world : World Nat :=
      ⟨⟨fun name => [("HOME", "/home/u"), ("RUST_LOG", " é=info")].lookup name, none⟩,
        nothing.fileSystem, today.midnight, .replay #[0], 0⟩
    let q := range "[START-MAY-2024<->END-MAY-2024]"
    world.Configured none .default ∧ (q.answer world.source world.state).value.succeeds = true ∧
      (q.run none false world).exit = 101 ∧ ¬ q.Conforms none world := by
  intro today nothing world q
  have hload : (Settings.load world.files world.environment none).outcome = .ok .default := by
    decide +kernel
  have hcut : directives? world.environment = none := by decide +kernel
  have hcreates : ∀ path ∈ Settings.default.file, world.files.canCreate path = true := by
    decide
  have hsucceeds : (q.answer world.source world.state).value.succeeds = true := by decide +kernel
  exact ⟨⟨hload, hcreates⟩, hsucceeds, q.run_of_cut false hload hcut,
    q.not_conforms_of_cut hload hcut⟩

end Query

end BracketToken.Command
