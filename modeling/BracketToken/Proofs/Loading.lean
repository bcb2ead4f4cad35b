import BracketToken.Proofs.Document
import BracketToken.Proofs.LevelNames

/-!
How loading settings decides.

Main statement: `load_decides`, loading comes to exactly what `Decides` says, which names for every
file system, environment and path the one case that holds; and the variable that replaces the level
decides about the level alone.
-/

namespace BracketToken.Settings

open Log

/-- What keeps a text from being read from a file. -/
inductive Bars : FileEntry → Unreadable → Prop
  | directory : Bars .directory .isDirectory
  | locked : Bars .locked .denied
  | notUtf8 (bytes : ByteArray) (h : ∀ text : String, bytes ≠ text.toUTF8) :
      Bars (.file bytes) .notUtf8

/-- The path of the log file as it is used, for the one that is written. -/
inductive LogFileOf (env : Environment) : Option String → Option String → Prop
  | absent : LogFileOf env none none
  | expanded (path full : String) (h : expand? env path = some full) :
      LogFileOf env (some path) (some full)

/-- The level that holds where one is configured: the name of what the variable names, if it names
anything, and otherwise the configured level as it is written. -/
inductive LevelOf (env : Environment) (configured : String) : String → Prop
  | replaced (value : String) (t : Threshold) (hset : env.lookup? levelVariable = some value)
      (h : t.Names value) : LevelOf env configured t.name
  | kept (h : ∀ value ∈ env.lookup? levelVariable, ∀ t : Threshold, ¬ t.Names value) :
      LevelOf env configured configured

/-- The path that decides: the given one, or else the default one. -/
def pathOf (env : Environment) (given : Option String) : String := given.getD (defaultPath env)

/-- What loading comes to. -/
inductive Decides (files : FileSystem) (env : Environment) (given : Option String) :
    Except Failure Settings → Prop
  | notFound (path : String) (hgiven : given = some path) (missing : files.entry? path = none) :
      Decides files env given (.error (.notFound path))
  | defaults (level : String) (hgiven : given = none)
      (missing : files.entry? (defaultPath env) = none) (hlevel : LevelOf env "info" level) :
      Decides files env given (.ok ⟨none, level, none, none⟩)
  | unreadable (entry : FileEntry) (cause : Unreadable)
      (there : files.entry? (pathOf env given) = some entry) (h : Bars entry cause) :
      Decides files env given (.error (.unreadable (pathOf env given) cause))
  | malformed (text : String) (cause : Malformed)
      (there : files.entry? (pathOf env given) = some (.file text.toUTF8))
      (h : Says text (.error cause)) :
      Decides files env given (.error (.malformed (pathOf env given) cause))
  | badVersion (text : String) (document : Document)
      (there : files.entry? (pathOf env given) = some (.file text.toUTF8))
      (hsaid : Says text (.ok document)) (h : document.version ≠ 1) :
      Decides files env given (.error (.badVersion document.version))
  | noHome (text : String) (document : Document) (path : String)
      (there : files.entry? (pathOf env given) = some (.file text.toUTF8))
      (hsaid : Says text (.ok document)) (hversion : document.version = 1)
      (hpath : document.file = some path) (h : expand? env path = none) :
      Decides files env given (.error .noHome)
  | loaded (text : String) (document : Document) (file : Option String) (level : String)
      (there : files.entry? (pathOf env given) = some (.file text.toUTF8))
      (hsaid : Says text (.ok document)) (hversion : document.version = 1)
      (hfile : LogFileOf env document.file file) (hlevel : LevelOf env document.level level) :
      Decides files env given (.ok ⟨some (pathOf env given), level, document.fileLevel, file⟩)

variable {files : FileSystem} {env env' : Environment} {given : Option String}
  {r : Except Failure Settings}

theorem fromUTF8?_eq_some_iff {bytes : ByteArray} {text : String} :
    String.fromUTF8? bytes = some text ↔ bytes = text.toUTF8 := by
  rw [String.fromUTF8?]
  constructor
  · intro h
    split at h
    · cases h
      rfl
    · cases h
  · rintro rfl
    exact dif_pos text.isValidUTF8

theorem textAt_eq_ok_iff {path text : String} {entry : FileEntry} :
    textAt path entry = .ok text ↔ entry = .file text.toUTF8 := by
  cases entry with
  | directory => simp [textAt]
  | locked => simp [textAt]
  | file bytes =>
      rw [textAt, FileEntry.file.injEq, ← fromUTF8?_eq_some_iff]
      cases String.fromUTF8? bytes <;> simp

theorem exists_bars (entry : FileEntry) :
    (∃ text : String, entry = .file text.toUTF8) ∨ ∃ cause, Bars entry cause := by
  cases entry with
  | directory => exact .inr ⟨_, .directory⟩
  | locked => exact .inr ⟨_, .locked⟩
  | file bytes =>
      by_cases h : ∃ text : String, bytes = text.toUTF8
      · obtain ⟨text, rfl⟩ := h
        exact .inl ⟨text, rfl⟩
      · exact .inr ⟨_, .notUtf8 bytes (not_exists.1 h)⟩

theorem Bars.textAt_eq {entry : FileEntry} {cause : Unreadable} (h : Bars entry cause)
    (path : String) : textAt path entry = .error (.unreadable path cause) := by
  cases h with
  | directory => rfl
  | locked => rfl
  | notUtf8 bytes h =>
      have hnone : String.fromUTF8? bytes = none := by
        rw [Option.eq_none_iff_forall_ne_some]
        intro text htext
        exact h text (fromUTF8?_eq_some_iff.1 htext)
      rw [textAt, hnone]

theorem exists_levelOf (env : Environment) (configured : String) :
    ∃ level, LevelOf env configured level := by
  by_cases h : ∃ value ∈ env.lookup? levelVariable, ∃ t : Threshold, t.Names value
  · obtain ⟨value, hset, t, hnames⟩ := h
    exact ⟨t.name, .replaced value t hset hnames⟩
  · exact ⟨configured, .kept fun value hset t hnames => h ⟨value, hset, t, hnames⟩⟩

theorem LevelOf.override_eq {s : Settings} {level : String} (h : LevelOf env s.level level) :
    (overrideLevel s (env.lookup? levelVariable)).value = { s with level := level } := by
  cases h with
  | replaced value t hset hnames =>
      rw [hset, overrideLevel_eq, Threshold.read?_eq_some_iff.2 hnames]
  | kept hnone =>
      cases hset : env.lookup? levelVariable with
      | none => rfl
      | some value => rw [overrideLevel_eq, Threshold.read?_eq_none_iff.2 (hnone value hset)]

theorem load_outcome (files : FileSystem) (env : Environment) (given : Option String) :
    (load files env given).outcome = (unadjusted files env given).outcome.map fun s =>
      (overrideLevel s (env.lookup? levelVariable)).value := by
  rw [load, Traced.outcome_bind]
  cases (unadjusted files env given).outcome <;> rfl

theorem LogFileOf.logFile_eq {path full : Option String} (h : LogFileOf env path full) :
    logFile env path = .ok full := by
  cases h with
  | absent => rfl
  | expanded path full h => rw [logFile, h]

theorem unadjusted_of_entry {entry : FileEntry}
    (there : files.entry? (pathOf env given) = some entry) :
    (unadjusted files env given).outcome = ofFile env (pathOf env given) entry := by
  rw [pathOf] at there ⊢
  simp only [unadjusted, there]
  rfl

/-- A text is read, then its version is judged, then its log file is expanded. -/
theorem ofFile_text (env : Environment) (path text : String) :
    ofFile env path (.file text.toUTF8) =
      match Document.read text with
      | .error cause => .error (.malformed path cause)
      | .ok document =>
        if document.version ≠ 1 then .error (.badVersion document.version)
        else (logFile env document.file).map fun file =>
          ⟨some path, document.level, document.fileLevel, file⟩ := by
  rw [ofFile, textAt_eq_ok_iff.2 rfl]
  simp only [bind, Except.bind]
  cases Document.read text with
  | error cause => rfl
  | ok document =>
      simp only [pure, Except.pure]
      split
      · rfl
      · cases logFile env document.file <;> rfl

theorem Decides.load_eq (h : Decides files env given r) : (load files env given).outcome = r := by
  rw [load_outcome]
  cases h with
  | notFound path hgiven missing =>
      subst hgiven
      simp only [unadjusted, Option.getD_some, missing]
      rfl
  | defaults level hgiven missing hlevel =>
      subst hgiven
      simp only [unadjusted, Option.getD_none, missing]
      exact congrArg Except.ok (LevelOf.override_eq hlevel)
  | unreadable entry cause there hbars =>
      rw [unadjusted_of_entry there, ofFile, hbars.textAt_eq]
      rfl
  | malformed text cause there hsaid =>
      rw [unadjusted_of_entry there, ofFile_text, hsaid.read_eq]
      rfl
  | badVersion text document there hsaid hversion =>
      rw [unadjusted_of_entry there, ofFile_text, hsaid.read_eq]
      simp only [if_pos hversion]
      rfl
  | noHome text document path there hsaid hversion hpath hexpand =>
      rw [unadjusted_of_entry there, ofFile_text, hsaid.read_eq]
      simp only [hversion, hpath, logFile, hexpand]
      rfl
  | loaded text document file level there hsaid hversion hfile hlevel =>
      rw [unadjusted_of_entry there, ofFile_text, hsaid.read_eq]
      simp only [if_neg (not_not.2 hversion), hfile.logFile_eq]
      exact congrArg Except.ok (LevelOf.override_eq hlevel)

theorem exists_logFileOf (env : Environment) (path : Option String) :
    (∃ full, LogFileOf env path full) ∨ ∃ text, path = some text ∧ expand? env text = none := by
  cases path with
  | none => exact .inl ⟨none, .absent⟩
  | some text =>
      cases h : expand? env text with
      | none => exact .inr ⟨text, rfl, h⟩
      | some full => exact .inl ⟨some full, .expanded text full h⟩

theorem exists_decides (files : FileSystem) (env : Environment) (given : Option String) :
    ∃ r, Decides files env given r := by
  -- The cases are taken in the order in which loading meets them.
  cases there : files.entry? (pathOf env given) with
  | none =>
      cases given with
      | none =>
          obtain ⟨level, hlevel⟩ := exists_levelOf env "info"
          exact ⟨_, .defaults level rfl there hlevel⟩
      | some path => exact ⟨_, .notFound path rfl there⟩
  | some entry =>
      obtain ⟨text, rfl⟩ | ⟨cause, hbars⟩ := exists_bars entry
      · obtain ⟨cause | document, hsaid⟩ := exists_says text
        · exact ⟨_, .malformed text cause there hsaid⟩
        · by_cases hversion : document.version = 1
          · obtain ⟨file, hfile⟩ | ⟨path, hpath, hexpand⟩ := exists_logFileOf env document.file
            · obtain ⟨level, hlevel⟩ := exists_levelOf env document.level
              exact ⟨_, .loaded text document file level there hsaid hversion hfile hlevel⟩
            · exact ⟨_, .noHome text document path there hsaid hversion hpath hexpand⟩
          · exact ⟨_, .badVersion text document there hsaid hversion⟩
      · exact ⟨_, .unreadable entry cause there hbars⟩

theorem load_outcome_iff : (load files env given).outcome = r ↔ Decides files env given r := by
  constructor
  · rintro rfl
    obtain ⟨r, h⟩ := exists_decides files env given
    rwa [h.load_eq]
  · exact Decides.load_eq

/-- Two environments that give every variable but one the same value. -/
structure AgreeBut (key : String) (env env' : Environment) : Prop where
  lookup : ∀ name, name ≠ key → env'.lookup? name = env.lookup? name
  account : env'.accountHome? = env.accountHome?

theorem AgreeBut.home_eq (h : AgreeBut levelVariable env env') : env'.home? = env.home? := by
  rw [Environment.home?, Environment.home?, h.lookup "HOME" (by decide), h.account]

theorem AgreeBut.pathOf_eq (h : AgreeBut levelVariable env env') (given : Option String) :
    pathOf env' given = pathOf env given := by
  rw [pathOf, pathOf, defaultPath, defaultPath, h.lookup "XDG_CONFIG_HOME" (by decide), h.home_eq]

theorem mapM_value?_congr {ps : List Piece}
    (h : ∀ name ∈ ps.filterMap Piece.name?, env'.lookup? name = env.lookup? name) :
    ps.mapM (·.value? env') = ps.mapM (·.value? env) := by
  induction ps with
  | nil => rfl
  | cons p ps ih =>
      rw [List.mapM_cons, List.mapM_cons]
      cases p with
      | char c => rw [ih h, Piece.value?, Piece.value?]
      | named name default =>
          have hname : Piece.name? (.named name default) = some name := rfl
          rw [List.filterMap_cons_some hname, List.forall_mem_cons] at h
          rw [ih h.2, Piece.value?, Piece.value?, h.1]

/-- An expansion depends on the home directory and on the variables that the path mentions. -/
theorem expand?_congr {path : String} (hhome : env'.home? = env.home?)
    (h : ∀ name ∈ mentioned path, env'.lookup? name = env.lookup? name) :
    expand? env' path = expand? env path := by
  have hexpand : expandHome env' = expandHome env := by
    funext text
    unfold expandHome
    rw [hhome]
  rw [expand?, expand?, mapM_value?_congr h, hexpand]

theorem LogFileOf.congr {path full : Option String}
    (hsame : ∀ text, path = some text → expand? env' text = expand? env text)
    (h : LogFileOf env path full) : LogFileOf env' path full := by
  cases h with
  | absent => exact .absent
  | expanded text full h => exact .expanded text full ((hsame text rfl).trans h)

def besidesLevel (s : Settings) : Option String × Option String × Option String :=
  (s.source, s.fileLevel, s.file)

/-- Whether the file that decides asks for a log file by a path that mentions a variable. -/
def LogFileMentions (files : FileSystem) (env : Environment) (given : Option String)
    (key : String) : Prop :=
  ∃ (text : String) (document : Document) (path : String),
    files.entry? (pathOf env given) = some (.file text.toUTF8) ∧
      Says text (.ok document) ∧ document.file = some path ∧ key ∈ mentioned path

/-- Where the log file does not depend on the variable that replaces the level, another value of
the variable makes another level and changes nothing else. -/
theorem Decides.transfer (hagree : AgreeBut levelVariable env env')
    (hfree : ¬ LogFileMentions files env given levelVariable) (h : Decides files env given r) :
    ∃ r', Decides files env' given r' ∧ r'.map besidesLevel = r.map besidesLevel := by
  -- The same path decides in both, and the log file that it may name expands to the same.
  have hpath := hagree.pathOf_eq given
  have hexpand : ∀ text document path, files.entry? (pathOf env given) = some (.file text.toUTF8) →
      Says text (.ok document) → document.file = some path →
      expand? env' path = expand? env path := by
    intro text document path there hsaid hfile
    refine expand?_congr hagree.home_eq fun name hname => hagree.lookup name ?_
    rintro rfl
    exact hfree ⟨text, document, path, there, hsaid, hfile, hname⟩
  cases h with
  | notFound path hgiven missing => exact ⟨_, .notFound path hgiven missing, rfl⟩
  | defaults level hgiven missing hlevel =>
      obtain ⟨level', hlevel'⟩ := exists_levelOf env' "info"
      subst hgiven
      change files.entry? (pathOf env none) = none at missing
      rw [← hpath] at missing
      exact ⟨_, .defaults level' rfl missing hlevel', rfl⟩
  | unreadable entry cause there hbars =>
      rw [← hpath] at there ⊢
      exact ⟨_, .unreadable entry cause there hbars, rfl⟩
  | malformed text cause there hsaid =>
      rw [← hpath] at there ⊢
      exact ⟨_, .malformed text cause there hsaid, rfl⟩
  | badVersion text document there hsaid hversion =>
      rw [← hpath] at there
      exact ⟨_, .badVersion text document there hsaid hversion, rfl⟩
  | noHome text document path there hsaid hversion hfile hnone =>
      have hnone' := (hexpand text document path there hsaid hfile).trans hnone
      rw [← hpath] at there
      exact ⟨_, .noHome text document path there hsaid hversion hfile hnone', rfl⟩
  | loaded text document file level there hsaid hversion hfile hlevel =>
      obtain ⟨level', hlevel'⟩ := exists_levelOf env' document.level
      have hfile' := hfile.congr (hexpand text document · there hsaid)
      rw [← hpath] at there ⊢
      exact ⟨_, .loaded text document file level' there hsaid hversion hfile' hlevel', rfl⟩

/-- How loading decides, and that the variable which replaces the level decides about nothing else
where the path of the log file does not mention it. -/
theorem load_decides (files : FileSystem) (env : Environment) (given : Option String) :
    (∀ r, (load files env given).outcome = r ↔ Decides files env given r) ∧
      ∀ env', AgreeBut levelVariable env env' → ¬ LogFileMentions files env given levelVariable →
        (load files env' given).outcome.map besidesLevel =
          (load files env given).outcome.map besidesLevel := by
  refine ⟨fun r => load_outcome_iff, fun env' hagree hfree => ?_⟩
  obtain ⟨r, h⟩ := exists_decides files env given
  obtain ⟨r', h', hsame⟩ := h.transfer hagree hfree
  rw [h.load_eq, h'.load_eq, hsame]

/-- A log file below the home directory, and a variable that first says nothing and then a level. A
file of another version is refused for it, though its log file cannot be had either, and a file
without a version says nothing. -/
theorem load_decides_silent :
    let path := "base/tokenparser/config.toml"
    let files (text : String) : FileSystem :=
      ⟨fun name => if name = path then some (.file text.toUTF8) else none, fun _ => true⟩
    let env (value : String) : Environment :=
      let pairs := [("XDG_CONFIG_HOME", "base"), ("HOME", "/home/u"), (levelVariable, value)]
      ⟨fun name => pairs.lookup name, none⟩
    let text :=
      "version = 1\nlogging.level = \"warn\"\nlogging.file = \"~/$\x7bDIR:-logs\x7d/day.log\""
    let later := "version = 2\nlogging.file = \"$\x7bDIR\x7d/day.log\""
    let bare := "[logging]\nlevel = \"warn\""
    (AgreeBut levelVariable (env "loud") (env " Silent\t") ∧
        ¬ LogFileMentions (files text) (env "loud") none levelVariable) ∧
      (load (files text) (env "loud") none).outcome =
        .ok ⟨some path, "warn", none, some "/home/u/logs/day.log"⟩ ∧
      (load (files text) (env " Silent\t") none).outcome.map besidesLevel =
        .ok (some path, none, some "/home/u/logs/day.log") ∧
      Decides (files later) (env "loud") none (.error (.badVersion 2)) ∧
      Decides (files bare) (env "loud") none (.error (.malformed path (.missing "version"))) := by
  intro path files env text later bare
  have hagree : AgreeBut levelVariable (env "loud") (env " Silent\t") := by
    refine ⟨fun name hname => ?_, rfl⟩
    have hother : (name == levelVariable) = false := beq_false_of_ne hname
    simp only [env, List.lookup_cons, hother]
  have hread : Document.read text =
      .ok ⟨1, "warn", none, some "~/$\x7bDIR:-logs\x7d/day.log"⟩ := by
    decide +kernel
  have hfree : ¬ LogFileMentions (files text) (env "loud") none levelVariable := by
    rintro ⟨text', document, path', there, hsaid, hfile, hmem⟩
    have hpath : pathOf (env "loud") none = path := by decide +kernel
    have hthere : FileSystem.entry? (files text) path = some (.file text.toUTF8) := by
      simp only [files, if_true]
    rw [hpath, hthere, Option.some.injEq, FileEntry.file.injEq] at there
    obtain rfl : text = text' := String.toByteArray_inj.1 there
    rw [← read_eq_iff, hread, Except.ok.injEq] at hsaid
    subst hsaid
    cases hfile
    exact absurd hmem (by decide +kernel)
  have hload : (load (files text) (env "loud") none).outcome =
      .ok ⟨some path, "warn", none, some "/home/u/logs/day.log"⟩ := by
    decide +kernel
  have hlater : (load (files later) (env "loud") none).outcome = .error (.badVersion 2) := by
    decide +kernel
  have hbare : (load (files bare) (env "loud") none).outcome =
      .error (.malformed path (.missing "version")) := by
    decide +kernel
  have hsame := (load_decides (files text) (env "loud") none).2 _ hagree hfree
  exact ⟨⟨hagree, hfree⟩, hload, hsame.trans (congrArg _ hload),
    ((load_decides (files later) (env "loud") none).1 _).1 hlater,
    ((load_decides (files bare) (env "loud") none).1 _).1 hbare⟩

end BracketToken.Settings
