import BracketToken.Proofs.Grammars
import BracketToken.Proofs.Responses

/-!
What a check reports, and what the other commands do.

A check names a grammar exactly where the command of that grammar takes the token, and a date token
that it names can still lead out of the range of dates on some days: so it is where the directives of
the environment can be read. Main statement: `check_agrees_iff`, where a directive cuts a character a
run ends with a status of its own, and the two disagree.
-/

namespace BracketToken

open Calendar

theorem Response.Tells.succeeds_iff {ε α : Type} {response : Response} {token : String}
    {value : α → TokenValue} {reason : ε → String} {outcome : Except ε α}
    (h : response.Tells token value reason outcome) :
    response.succeeds = true ↔ ∃ a, outcome = .ok a := by
  cases outcome with
  | ok a => simp [h.1, succeeds]
  | error e =>
      obtain ⟨message, hmessage, -⟩ := h
      simp [hmessage, succeeds]

namespace Command

open Response

/-- The settings load, and the log file that they may name can be created. -/
structure World.Configured {σ : Type} (world : World σ) (config : Option String)
    (settings : Settings) : Prop where
  loads : (Settings.load world.files world.environment config).outcome = .ok settings
  creates : ∀ path ∈ settings.file, world.files.canCreate path = true

/-- A run gets to its command: the directives of the environment can be read as well. -/
structure World.Ready {σ : Type} (world : World σ) (config : Option String) (settings : Settings)
    (given : List Log.Directive) : Prop extends world.Configured config settings where
  reads : directives? world.environment = some given

section

variable {σ : Type} {world : World σ} {config : Option String} {settings : Settings}
  {given : List Log.Directive}

/-- A run that gets to its command comes to what the command reports, and to its events as far as the
thresholds let them pass. -/
theorem Invocation.run_eq_of_ready (i : Invocation) (h : world.Ready i.config settings given) :
    i.run world =
      { exit := (i.perform world settings).exit
        stdout := (i.perform world settings).stdout
        events := passing (stderrThreshold settings) given (i.perform world settings).events
        logFile := settings.file.map fun path =>
          (path, passing (fileThreshold settings) given (i.perform world settings).events) } := by
  have hunder : i.run world = i.runUnder world settings given := by
    rw [run, h.loads]
    dsimp only
    rw [runWith, h.reads]
  rw [hunder, runUnder_eq]
  cases hfile : settings.file with
  | none => rfl
  | some path =>
      dsimp only
      rw [if_pos (h.creates path hfile)]
      rfl

theorem Invocation.run_of_ready (i : Invocation) (h : world.Ready i.config settings given) :
    (i.run world).exit = (i.perform world settings).exit ∧
      (i.run world).stdout = (i.perform world settings).stdout ∧
      (i.run world).events =
        passing (stderrThreshold settings) given (i.perform world settings).events := by
  rw [i.run_eq_of_ready h]
  exact ⟨rfl, rfl, rfl⟩

/-- A run names a grammar: on a line of its own or, in JSON, with `true` for its value. -/
def Reports (json : Bool) (outcome : Outcome) (name : String) : Prop :=
  if json then
    ∃ fields, Json.read? outcome.stdout = some (.object fields) ∧ (name, .bool true) ∈ fields
  else name.toList ∈ outcome.stdout.toList.splitOn '\n'

/-- A run refuses its token with a message. In JSON the message is all that is printed. Otherwise
nothing is printed and the message is the last that is logged, and standard error shows of the log
what its filter lets pass. -/
structure Invocation.Refuses (i : Invocation) (world : World σ) (settings : Settings)
    (message : String) : Prop where
  exit : (i.run world).exit = 1
  said : if i.json then
      Json.read? (i.run world).stdout = some (.object [("Error", .string message)])
    else (i.run world).stdout = "" ∧
      ∃ logged, (i.perform world settings).events = logged ++ [.refusal message]
  shown : (i.run world).events = passing (stderrThreshold settings)
    ((directives? world.environment).getD []) (i.perform world settings).events

theorem linesText_singleton (line : String) : linesText [line] = line ++ "\n" := by
  simp [linesText]

theorem read?_line (v : Json) : Json.read? (linesText [v.text]) = some v := by
  rw [linesText_singleton]
  exact Json.read?_text_append v (Text.forall_mem_of_all (by decide))

theorem Report.exit_eq (json : Bool) (response : Logged Response) :
    (ofResponse json response).exit = if response.value.succeeds then 0 else 1 := by
  unfold ofResponse
  cases json with
  | true => rfl
  | false =>
      dsimp only
      cases response.value with
      | error message => rfl
      | parsed v => cases v <;> rfl

theorem Report.exit_ofResponse (json : Bool) (response : Logged Response) :
    (ofResponse json response).exit = 0 ↔ response.value.succeeds = true := by
  rw [exit_eq]
  split <;> simp [*]

theorem Invocation.exit_of_ready (i : Invocation) (h : world.Ready i.config settings given)
    {response : Logged Response}
    (hreport : i.perform world settings = .ofResponse i.json response) :
    (i.run world).exit = 0 ↔ response.value.succeeds = true := by
  rw [(i.run_of_ready h).1, hreport]
  exact Report.exit_ofResponse i.json response

/-- A refusal is printed or logged with its message, whatever was logged before it. -/
theorem Invocation.refuses_of_ready (i : Invocation) (h : world.Ready i.config settings given)
    {logged : List Event} {message : String}
    (hreport : i.perform world settings = .ofResponse i.json ⟨logged, .error message⟩) :
    i.Refuses world settings message := by
  obtain ⟨hexit, hstdout, hevents⟩ := i.run_of_ready h
  refine ⟨?_, ?_, ?_⟩
  · rw [hexit, hreport, Report.exit_eq]
    rfl
  · rw [hstdout, hreport]
    cases i.json with
    | true => exact read?_line (Response.error message).json
    | false => exact ⟨rfl, logged, rfl⟩
  · rw [hevents, h.reads]
    rfl

/-- A directive that cuts a character ends a run before its command does anything. -/
theorem Invocation.run_of_cut (i : Invocation)
    (hloads : (Settings.load world.files world.environment i.config).outcome = .ok settings)
    (hcut : directives? world.environment = none) :
    (i.run world).exit = 101 ∧ (i.run world).stdout = "" := by
  rw [run, hloads]
  dsimp only
  rw [runWith, hcut]
  exact ⟨rfl, rfl⟩

theorem not_reports_of_silent {json : Bool} {outcome : Outcome} {name : String}
    (h : outcome.stdout = "") (hname : name ≠ "") : ¬ Reports json outcome name := by
  intro hreports
  rw [Reports, h] at hreports
  cases json with
  | true =>
      obtain ⟨fields, hread, -⟩ := hreports
      cases hread
  | false =>
      have hline : name.toList ∈ [[]] := hreports
      rw [List.mem_singleton] at hline
      exact hname (String.toList_inj.1 hline)

theorem Acceptance.mem_lines_iff (a : Acceptance) :
    let lines := (linesText a.names).toList.splitOn '\n'
    ("date".toList ∈ lines ↔ a.date = true) ∧ ("range".toList ∈ lines ↔ a.range = true) ∧
      ("string".toList ∈ lines ↔ a.string = true) := by
  obtain ⟨date, range, string⟩ := a
  revert date range string
  decide

theorem Acceptance.mem_fields_iff (token : String) (a : Acceptance) :
    ∃ fields, a.json token = .object fields ∧ (("date", .bool true) ∈ fields ↔ a.date = true) ∧
      (("range", .bool true) ∈ fields ↔ a.range = true) ∧
        (("string", .bool true) ∈ fields ↔ a.string = true) := by
  refine ⟨_, rfl, ?_, ?_, ?_⟩ <;> simp

theorem World.Ready.reports_iff (h : world.Ready config settings given) (json : Bool)
    (token : String) :
    let check := Invocation.run ⟨config, json, .check token⟩ world
    (Reports json check "date" ↔ DateToken.accepts token = true) ∧
      (Reports json check "range" ↔ DateRange.accepts token = true) ∧
        (Reports json check "string" ↔ StringToken.accepts token = true) := by
  intro check
  have hstdout : check.stdout = (Report.ofCheck json token).stdout :=
    (Invocation.run_of_ready ⟨config, json, .check token⟩ h).2.1
  rw [Report.stdout_ofCheck] at hstdout
  cases json with
  | false =>
      rw [if_neg Bool.false_ne_true] at hstdout
      simp only [Reports, hstdout, Bool.false_eq_true, if_false]
      exact (Acceptance.ofToken token).value.mem_lines_iff
  | true =>
      rw [if_pos rfl] at hstdout
      obtain ⟨fields, hfields, hanswers⟩ :=
        (Acceptance.ofToken token).value.mem_fields_iff token
      simp only [Reports, hstdout, read?_line, hfields, if_true, Option.some.injEq,
        Json.object.injEq, exists_eq_left']
      exact hanswers

theorem Report.exit_ofCheck (json : Bool) (token : String) :
    (ofCheck json token).exit = 1 ↔ DateToken.accepts token = false ∧
      DateRange.accepts token = false ∧ StringToken.accepts token = false := by
  have hexit : (ofCheck json token).exit = if (Acceptance.ofToken token).value.any then 0 else 1 := by
    rw [ofCheck]
    split <;> rfl
  have hany : (Acceptance.ofToken token).value.any =
      (DateToken.accepts token || DateRange.accepts token || StringToken.accepts token) := rfl
  rw [hexit, hany]
  cases DateToken.accepts token <;> cases DateRange.accepts token <;>
    cases StringToken.accepts token <;> simp

end

theorem not_blank_of_date {token : String} {tree : DateToken}
    (h : (DateToken.read token).outcome = .ok tree) : token.toList.all Text.isBlank = false := by
  rw [Bool.eq_false_iff]
  intro hblank
  rw [DateToken.read_of_blank hblank] at h
  cases h

theorem outOfRange_prefix (text : String) :
    "Invalid string token format: date out of range: ".toList <+:
      ("Invalid string token format: " ++ ("date out of range: " ++ text)).toList := by
  have hfront : "Invalid string token format: date out of range: ".toList =
      "Invalid string token format: ".toList ++ "date out of range: ".toList := by decide
  rw [hfront, String.toList_append, String.toList_append, ← List.append_assoc]
  exact List.prefix_append _ _

/-- A date token that is read leads to a value or out of the range of dates. -/
theorem date_response_of_read {token : String} {tree : DateToken}
    (h : (DateToken.read token).outcome = .ok tree) (now : Instant) :
    (ofDate token now).value.succeeds = true ∨
      ∃ message, (ofDate token now).value = .error message ∧
        "Invalid string token format: date out of range: ".toList <+: message.toList ∧
          ∀ b, tree ≠ .monthBoundary b := by
  have htells := ofDate_tells token now
  cases hevaluate : (DateToken.evaluate token now).outcome with
  | ok i =>
      rw [hevaluate] at htells
      exact .inl (htells.succeeds_iff.2 ⟨i, rfl⟩)
  | error e =>
      right
      rw [hevaluate] at htells
      obtain ⟨message, hvalue, -, hmessage, -⟩ := htells
      rw [saying, not_blank_of_date h, if_neg Bool.false_ne_true] at hmessage
      cases tree with
      | monthBoundary b =>
          obtain ⟨i, hi⟩ := DateToken.exists_instant_of_read_boundary h
          rw [hi now] at hevaluate
          cases hevaluate
      | relative anchor adjustments =>
          rw [DateToken.evaluate_of_read_relative h] at hevaluate
          obtain ⟨cause, rfl⟩ := DateToken.isOutOfRange_of_relative hevaluate
          refine ⟨message, hvalue, ?_, ?_⟩
          · rw [hmessage]
            exact outOfRange_prefix cause.message
          · rintro b ⟨⟩

theorem accepts_of_date_response {token : String} {now : Instant}
    (h : (ofDate token now).value.succeeds = true) : DateToken.accepts token = true := by
  obtain ⟨i, hi⟩ := (ofDate_tells token now).succeeds_iff.1 h
  rw [DateToken.accepts, isOk_eq_true_iff]
  cases hread : (DateToken.read token).outcome with
  | ok tree => exact ⟨tree, rfl⟩
  | error e =>
      rw [DateToken.evaluate_of_read_error hread] at hi
      cases hi

theorem range_response_iff (token : String) :
    (ofRange token).value.succeeds = true ↔ DateRange.accepts token = true := by
  rw [(ofRange_tells token).succeeds_iff, DateRange.accepts, isOk_eq_true_iff]

/-- No source and no state of it decides about a string token. -/
theorem string_response_iff {σ : Type} (source : StringToken.IndexSource σ) (token : String)
    (s : σ) : (ofString source token s).1.value.succeeds = true ↔
      StringToken.accepts token = true := by
  rw [(ofString_tells source token s).succeeds_iff, StringToken.accepts, isOk_eq_true_iff,
    StringToken.drawText_outcome]
  cases (StringToken.read token).outcome with
  | ok r => simp [Except.map]
  | error e => simp [Except.map]

/-- A check in one world agrees with the other commands in another. A date token that it names leads
to a value or, unless it is a month boundary, out of the range of dates. -/
structure Agrees {σ τ : Type} (world : World σ) (config : Option String) (json : Bool)
    (other : World τ) (config' : Option String) (json' : Bool) (settings' : Settings)
    (token : String) : Prop where
  range : Reports json (Invocation.run ⟨config, json, .check token⟩ world) "range" ↔
    (Invocation.run ⟨config', json', .range token⟩ other).exit = 0
  string : Reports json (Invocation.run ⟨config, json, .check token⟩ world) "string" ↔
    (Invocation.run ⟨config', json', .string token⟩ other).exit = 0
  taken : ∀ today, (Invocation.run ⟨config', json', .date token (some today)⟩ other).exit = 0 →
    Reports json (Invocation.run ⟨config, json, .check token⟩ world) "date"
  named : Reports json (Invocation.run ⟨config, json, .check token⟩ world) "date" → ∀ today,
    (Invocation.run ⟨config', json', .date token (some today)⟩ other).exit = 0 ∨
      ∃ message,
        Invocation.Refuses ⟨config', json', .date token (some today)⟩ other settings' message ∧
          "Invalid string token format: date out of range: ".toList <+: message.toList ∧
            ∀ b, (DateToken.read token).outcome ≠ .ok (.monthBoundary b)
  rejected : (Invocation.run ⟨config, json, .check token⟩ world).exit = 1 ↔
    ∀ name ∈ ["date", "range", "string"],
      ¬ Reports json (Invocation.run ⟨config, json, .check token⟩ world) name

section

variable {σ τ : Type} {world : World σ} {other : World τ} {config config' : Option String}
  {settings settings' : Settings} {given given' : List Log.Directive} {token : String}

theorem World.Ready.exit_check_iff (h : world.Ready config settings given) (json : Bool)
    (token : String) : (Invocation.run ⟨config, json, .check token⟩ world).exit = 1 ↔
      ∀ name ∈ ["date", "range", "string"],
        ¬ Reports json (Invocation.run ⟨config, json, .check token⟩ world) name := by
  obtain ⟨hdate, hrange, hstring⟩ := h.reports_iff json token
  simp only [List.forall_mem_cons, List.not_mem_nil, false_implies, implies_true, and_true, hdate,
    hrange, hstring, Bool.not_eq_true]
  rw [(Invocation.run_of_ready ⟨config, json, .check token⟩ h).1]
  exact Report.exit_ofCheck json token

theorem agrees_of_ready (h : world.Ready config settings given)
    (h' : other.Ready config' settings' given') (json json' : Bool) (token : String) :
    Agrees world config json other config' json' settings' token := by
  obtain ⟨hdate, hrange, hstring⟩ := h.reports_iff json token
  have hexit (today : Date) :=
    Invocation.exit_of_ready ⟨config', json', .date token (some today)⟩ h' rfl
  refine ⟨?_, ?_, ?_, ?_, ?_⟩
  · rw [hrange, ← range_response_iff, Invocation.exit_of_ready ⟨config', json', .range token⟩ h' rfl]
  · rw [hstring, ← string_response_iff other.source token other.state,
      Invocation.exit_of_ready ⟨config', json', .string token⟩ h' rfl]
  · intro today htaken
    rw [hexit] at htaken
    exact hdate.2 (accepts_of_date_response htaken)
  · intro hreports today
    obtain ⟨tree, htree⟩ := isOk_eq_true_iff.1 (hdate.1 hreports)
    rw [hexit]
    rcases date_response_of_read htree today.midnight with hvalue | ⟨message, hvalue, hopens, hne⟩
    · exact .inl hvalue
    · refine .inr ⟨message, ?_, hopens, ?_⟩
      · apply Invocation.refuses_of_ready ⟨config', json', .date token (some today)⟩ h'
        rw [← hvalue]
        rfl
      · intro b hb
        rw [htree, Except.ok.injEq] at hb
        exact hne b hb
  · exact h.exit_check_iff json token

theorem not_agrees_of_cut
    (hloads : (Settings.load world.files world.environment config).outcome = .ok settings)
    (hcut : directives? world.environment = none) (json json' : Bool) :
    ¬ Agrees world config json other config' json' settings' token := by
  intro h
  obtain ⟨hexit, hstdout⟩ := Invocation.run_of_cut ⟨config, json, .check token⟩ hloads hcut
  have hone := h.rejected.2 fun name hname =>
    not_reports_of_silent hstdout (by rintro rfl; exact absurd hname (by decide))
  rw [hexit] at hone
  cases hone

/-- Commands that never get to the token take none, so there is nothing that a check may name. -/
theorem agrees_of_cut_iff (h : world.Ready config settings given)
    (hloads : (Settings.load other.files other.environment config').outcome = .ok settings')
    (hcut : directives? other.environment = none) (json json' : Bool) :
    Agrees world config json other config' json' settings' token ↔
      DateToken.accepts token = false ∧ DateRange.accepts token = false ∧
        StringToken.accepts token = false := by
  obtain ⟨hdate, hrange, hstring⟩ := h.reports_iff json token
  have hexit (a : Action) : (Invocation.run ⟨config', json', a⟩ other).exit = 101 :=
    (Invocation.run_of_cut ⟨config', json', a⟩ hloads hcut).1
  have hfails (a : Action) : (Invocation.run ⟨config', json', a⟩ other).exit ≠ 0 := by
    rw [hexit]
    decide
  rw [← Bool.not_eq_true, ← Bool.not_eq_true, ← Bool.not_eq_true, ← hdate, ← hrange, ← hstring]
  constructor
  · intro hagrees
    refine ⟨?_, fun hreports => hfails _ (hagrees.range.1 hreports),
      fun hreports => hfails _ (hagrees.string.1 hreports)⟩
    intro hreports
    let today : Date := ⟨1, 1, 1, by decide, by decide, by decide⟩
    rcases hagrees.named hreports today with htaken | ⟨message, hrefuses, -⟩
    · exact hfails _ htaken
    · have hone := hrefuses.exit
      rw [hexit] at hone
      cases hone
  · rintro ⟨hnodate, hnorange, hnostring⟩
    refine ⟨iff_of_false hnorange (hfails _), iff_of_false hnostring (hfails _), ?_, ?_, ?_⟩
    · exact fun today htaken => absurd htaken (hfails _)
    · exact fun hreports => absurd hreports hnodate
    · exact h.exit_check_iff json token

/-- A check and the other commands, each in a world of its own that can be configured, agree exactly
if the directives of both can be read, or those of the check can and no grammar takes the token. In
one environment the directives of both are the same. -/
theorem check_agrees_iff (h : world.Configured config settings)
    (h' : other.Configured config' settings') (json json' : Bool) (token : String) :
    Agrees world config json other config' json' settings' token ↔
      (∃ given, directives? world.environment = some given) ∧
        ((∃ given', directives? other.environment = some given') ∨
          DateToken.accepts token = false ∧ DateRange.accepts token = false ∧
            StringToken.accepts token = false) := by
  cases hreads : directives? world.environment with
  | none =>
      refine iff_of_false (not_agrees_of_cut h.loads hreads json json') ?_
      rintro ⟨⟨given, hgiven⟩, -⟩
      cases hgiven
  | some given =>
      have hready : world.Ready config settings given := ⟨h, hreads⟩
      rw [and_iff_right ⟨given, rfl⟩]
      cases hreads' : directives? other.environment with
      | some given' =>
          have hready' : other.Ready config' settings' given' := ⟨h', hreads'⟩
          exact iff_of_true (agrees_of_ready hready hready' json json' token) (.inl ⟨given', rfl⟩)
      | none =>
          rw [agrees_of_cut_iff hready h'.loads hreads' json json', or_iff_right]
          rintro ⟨given', hgiven'⟩
          cases hgiven'

end

/-- A token that is taken on a leap day and leads out of the range from the last day, in a world
whose standard error shows failures and whose log file shows all. -/
theorem check_agrees_late :
    let text := "version = 1\nlogging = [\"error\", \"trace\", \"./day.log\"]"
    let files : Directory := ⟨[(["settings.toml"], text.toUTF8)], []⟩
    let leap : Date := ⟨2024, 2, 29, by decide, by decide, by decide⟩
    let last : Date := ⟨9999, 12, 31, by decide, by decide, by decide⟩
    let world : World Nat := ⟨⟨fun _ => none, none⟩, files.fileSystem, last.midnight, .replay #[0], 0⟩
    let settings : Settings := ⟨some "settings.toml", "error", some "trace", some "./day.log"⟩
    let token := "[TODAY+1YEAR]"
    let date (today : Date) : Invocation := ⟨some "settings.toml", false, .date token (some today)⟩
    let message :=
      "Invalid string token format: date out of range: +10000-12-31 is outside years 0000-9999"
    (world.Configured (some "settings.toml") settings ∧ directives? world.environment = some [] ∧
        ((date leap).run world).exit = 0) ∧
      Reports true (Invocation.run ⟨some "settings.toml", true, .check token⟩ world) "date" ∧
      (date last).Refuses world settings message ∧
        ((date last).run world).events = [.refusal message] := by
  intro text files leap last world settings token date message
  have hconfigured : world.Configured (some "settings.toml") settings :=
    ⟨by decide +kernel, by decide +kernel⟩
  have hreads : directives? world.environment = some [] := by decide +kernel
  have hleap : ((date leap).run world).exit = 0 := by decide +kernel
  have hlast : ((date last).run world).exit ≠ 0 := by decide +kernel
  have hagrees := (check_agrees_iff hconfigured hconfigured true false token).2
    ⟨⟨[], hreads⟩, .inl ⟨[], hreads⟩⟩
  have hreports := hagrees.taken leap hleap
  obtain ⟨said, hrefuses, -⟩ := (hagrees.named hreports last).resolve_left hlast
  have hmessage : ((date last).perform world settings).events.getLast? = some (.refusal message) := by
    decide +kernel
  obtain ⟨logged, hlogged⟩ := hrefuses.said.2
  rw [hlogged, List.getLast?_concat, Option.some.injEq, Event.refusal.injEq] at hmessage
  rw [hmessage] at hrefuses
  exact ⟨⟨hconfigured, hreads, hleap⟩, hreports, hrefuses, by decide +kernel⟩

/-- A directive with a blank before it is cut in the middle of its first letter, and the check of a
token that no grammar takes ends with neither 0 nor 1. -/
theorem not_agrees_cut_letter :
    let today : Date := ⟨2024, 2, 29, by decide, by decide, by decide⟩
    let nothing : Directory := ⟨[], []⟩
    let world : World Nat :=
      ⟨⟨fun name => [("HOME", "/home/u"), ("RUST_LOG", " é=info")].lookup name, none⟩,
        nothing.fileSystem, today.midnight, .replay #[0], 0⟩
    let check := Invocation.run ⟨none, false, .check "[NOPE]"⟩ world
    world.Configured none .default ∧
      (∀ name ∈ ["date", "range", "string"], ¬ Reports false check name) ∧ check.exit = 101 ∧
        ¬ Agrees world none false world none false .default "[NOPE]" := by
  intro today nothing world check
  have hconfigured : world.Configured none .default := ⟨by decide +kernel, by decide⟩
  have hcut : directives? world.environment = none := by decide +kernel
  obtain ⟨hexit, hstdout⟩ :=
    Invocation.run_of_cut ⟨none, false, .check "[NOPE]"⟩ hconfigured.loads hcut
  refine ⟨hconfigured, fun name hname => not_reports_of_silent hstdout ?_, hexit,
    not_agrees_of_cut hconfigured.loads hcut false false⟩
  rintro rfl
  exact absurd hname (by decide)

end Command

end BracketToken
