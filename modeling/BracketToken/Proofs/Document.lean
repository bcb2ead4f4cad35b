import BracketToken.Proofs.Text
import BracketToken.Settings.Document

/-!
What a settings file says.

The shape of a file is said here of its entries, apart from the reader: `Describes` for what entries
of that shape say, and `Misfit` for what is wrong with any others. Main statement: `read_eq_iff`,
reading a text comes to exactly what the text says.
-/

namespace BracketToken

namespace Toml

/-- Somewhere in a value a word passes for a number that is not held. -/
inductive HasUnheld : Value → Prop
  | word (text : String) : HasUnheld (.unheld text)
  | item {items v} (hv : v ∈ items) (h : HasUnheld v) : HasUnheld (.array items)
  | field {origin entries e} (he : e ∈ entries) (h : HasUnheld e.2) :
      HasUnheld (.table origin entries)
  | element {elements entries e} (hentries : entries ∈ elements) (he : e ∈ entries)
      (h : HasUnheld e.2) : HasUnheld (.tables elements)

mutual

theorem isHeld_eq_false_iff : (v : Value) → (v.isHeld = false ↔ HasUnheld v)
  | .unheld text => iff_of_true rfl (.word text)
  | .array items => by
      rw [Value.isHeld, allHeld_eq_false_iff items]
      exact ⟨fun ⟨_, hv, h⟩ => .item hv h, fun | .item hv h => ⟨_, hv, h⟩⟩
  | .table _ entries => by
      rw [Value.isHeld, entriesHeld_eq_false_iff entries]
      exact ⟨fun ⟨_, he, h⟩ => .field he h, fun | .field he h => ⟨_, he, h⟩⟩
  | .tables elements => by
      rw [Value.isHeld, tablesHeld_eq_false_iff elements]
      exact ⟨fun ⟨_, hentries, _, he, h⟩ => .element hentries he h,
        fun | .element hentries he h => ⟨_, hentries, _, he, h⟩⟩
  | .string _ | .integer _ | .float _ | .boolean _ | .moment _ =>
      iff_of_false Bool.noConfusion nofun

theorem allHeld_eq_false_iff : (items : List Value) →
    (allHeld items = false ↔ ∃ v ∈ items, HasUnheld v)
  | [] => by simp [allHeld]
  | v :: items => by
      rw [allHeld, Bool.and_eq_false_iff, isHeld_eq_false_iff v, allHeld_eq_false_iff items]
      simp only [List.mem_cons, exists_eq_or_imp]

theorem entriesHeld_eq_false_iff : (entries : List (String × Value)) →
    (entriesHeld entries = false ↔ ∃ e ∈ entries, HasUnheld e.2)
  | [] => by simp [entriesHeld]
  | (key, v) :: entries => by
      rw [entriesHeld, Bool.and_eq_false_iff, isHeld_eq_false_iff v,
        entriesHeld_eq_false_iff entries]
      simp only [List.mem_cons, exists_eq_or_imp]

theorem tablesHeld_eq_false_iff : (elements : List (List (String × Value))) →
    (tablesHeld elements = false ↔ ∃ entries ∈ elements, ∃ e ∈ entries, HasUnheld e.2)
  | [] => by simp [tablesHeld]
  | entries :: elements => by
      rw [tablesHeld, Bool.and_eq_false_iff, entriesHeld_eq_false_iff entries,
        tablesHeld_eq_false_iff elements]
      simp only [List.mem_cons, exists_eq_or_imp]

end

end Toml

namespace Settings

open Toml

/-- No number under a key that means nothing is one that is not held. -/
def OthersHeld (known : List String) (entries : Entries) : Prop :=
  ∀ e ∈ entries, e.1 ∉ known → ¬ HasUnheld e.2

/-- The first key that means nothing and stands over a number that is not held. -/
def FirstUnheld (known : List String) (entries : Entries) (key : String) : Prop :=
  ∃ v front back, entries = front ++ (key, v) :: back ∧ OthersHeld known front ∧ key ∉ known ∧
    HasUnheld v

/-- A version that an unsigned 32-bit word holds. -/
def HasVersion (entries : Entries) (version : Nat) : Prop :=
  entries.lookup "version" = some (.integer version) ∧ version < 4294967296

/-- A field for a text: left out, or the text as it is written. -/
inductive TextField : Option Value → Option String → Prop
  | absent : TextField none none
  | written (text : String) : TextField (some (.string text)) (some text)

inductive NoText : Option Value → Prop
  | intro {v} (h : ∀ text, v ≠ .string text) : NoText (some v)

/-- The section for logging with its fields for the level, the level of the log file, and the log
file: those of a table by name, those of a list by place, and none where the section is left out or
is a date or a time. -/
inductive Section : Option Value → (level fileLevel file : Option Value) → Prop
  | absent : Section none none none none
  | moment (text : String) : Section (some (.moment text)) none none none
  | table (origin : Origin) (inner : Entries)
      (others : OthersHeld ["level", "file_level", "file"] inner) :
      Section (some (.table origin inner)) (inner.lookup "level") (inner.lookup "file_level")
        (inner.lookup "file")
  | list (items : List Value) : Section (some (.array items)) items[0]? items[1]? items[2]?

/-- What entries of the shape of settings say. A level that is left out is `info`. -/
inductive Describes (entries : Entries) : Document → Prop
  | intro {version level fileLevel file level' fileLevel' file'}
      (others : OthersHeld ["version", "logging"] entries) (hversion : HasVersion entries version)
      (hsection : Section (entries.lookup "logging") level fileLevel file)
      (hlevel : TextField level level') (hfileLevel : TextField fileLevel fileLevel')
      (hfile : TextField file file') :
      Describes entries ⟨version, level'.getD "info", fileLevel', file'⟩

/-- What is wrong with a section, the first thing in the order of its parts. -/
inductive SectionMisfit : Option Value → Malformed → Prop
  | shape {v} (htable : ∀ origin inner, v ≠ .table origin inner) (hlist : ∀ items, v ≠ .array items)
      (hmoment : ∀ text, v ≠ .moment text) : SectionMisfit (some v) (.wrongType "logging")
  | other {origin inner key} (h : FirstUnheld ["level", "file_level", "file"] inner key) :
      SectionMisfit (some (.table origin inner)) (.wrongType key)
  | level {found level fileLevel file} (hsection : Section found level fileLevel file)
      (h : NoText level) : SectionMisfit found (.wrongType "level")
  | fileLevel {found level fileLevel file level'} (hsection : Section found level fileLevel file)
      (hlevel : TextField level level') (h : NoText fileLevel) :
      SectionMisfit found (.wrongType "file_level")
  | file {found level fileLevel file level' fileLevel'}
      (hsection : Section found level fileLevel file) (hlevel : TextField level level')
      (hfileLevel : TextField fileLevel fileLevel') (h : NoText file) :
      SectionMisfit found (.wrongType "file")

/-- What is wrong with entries, the first thing in the order of their parts. -/
inductive Misfit (entries : Entries) : Malformed → Prop
  | other {key} (h : FirstUnheld ["version", "logging"] entries key) :
      Misfit entries (.wrongType key)
  | noVersion (others : OthersHeld ["version", "logging"] entries)
      (h : entries.lookup "version" = none) : Misfit entries (.missing "version")
  | version {v} (others : OthersHeld ["version", "logging"] entries)
      (hv : entries.lookup "version" = some v) (h : ∀ version, ¬ HasVersion entries version) :
      Misfit entries (.wrongType "version")
  | logging {version cause} (others : OthersHeld ["version", "logging"] entries)
      (hversion : HasVersion entries version)
      (h : SectionMisfit (entries.lookup "logging") cause) : Misfit entries cause

/-- What a text says: settings, or why it says none. -/
inductive Says (text : String) : Except Malformed Document → Prop
  | notToml {e} (h : Toml.read text = .error e) : Says text (.error (.notToml e))
  | misfit {entries cause} (h : Toml.read text = .ok entries) (hmisfit : Misfit entries cause) :
      Says text (.error cause)
  | document {entries document} (h : Toml.read text = .ok entries)
      (hdescribes : Describes entries document) : Says text (.ok document)

variable {known : List String} {entries : Entries} {found : Option Value} {cause : Malformed}

theorem isUnheldOther_iff {e : String × Value} :
    (!known.contains e.1 && !e.2.isHeld) = true ↔ e.1 ∉ known ∧ HasUnheld e.2 := by
  rw [Bool.and_eq_true, Bool.not_eq_true', Bool.not_eq_true', isHeld_eq_false_iff,
    ← List.contains_iff_mem, Bool.not_eq_true]

theorem OthersHeld.checkOthers_eq (h : OthersHeld known entries) :
    checkOthers known entries = .ok () := by
  have hnone : entries.find? (fun e => !known.contains e.1 && !e.2.isHeld) = none := by
    rw [List.find?_eq_none]
    intro e he htest
    obtain ⟨hkey, hunheld⟩ := isUnheldOther_iff.1 htest
    exact h e he hkey hunheld
  rw [checkOthers, hnone]

theorem FirstUnheld.checkOthers_eq {key : String} (h : FirstUnheld known entries key) :
    checkOthers known entries = .error (.wrongType key) := by
  obtain ⟨v, front, back, hentries, hfront, hkey, hunheld⟩ := h
  have hsome : entries.find? (fun e => !known.contains e.1 && !e.2.isHeld) = some (key, v) := by
    rw [List.find?_eq_some_iff_append]
    refine ⟨isUnheldOther_iff.2 ⟨hkey, hunheld⟩, front, back, hentries, fun e he => ?_⟩
    rw [Bool.not_eq_true', ← Bool.not_eq_true, isUnheldOther_iff]
    exact fun hother => hfront e he hother.1 hother.2
  rw [checkOthers, hsome]

theorem othersHeld_or_firstUnheld (known : List String) (entries : Entries) :
    OthersHeld known entries ∨ ∃ key, FirstUnheld known entries key := by
  induction entries with
  | nil => exact .inl nofun
  | cons e entries ih =>
      by_cases he : e.1 ∉ known ∧ HasUnheld e.2
      · exact .inr ⟨e.1, e.2, [], entries, rfl, nofun, he.1, he.2⟩
      · have hheld : e.1 ∉ known → ¬ HasUnheld e.2 := fun hkey hunheld => he ⟨hkey, hunheld⟩
        rcases ih with hothers | ⟨key, v, front, back, rfl, hfront, hkey, hunheld⟩
        · exact .inl (List.forall_mem_cons.2 ⟨hheld, hothers⟩)
        · exact .inr ⟨key, v, e :: front, back, rfl, List.forall_mem_cons.2 ⟨hheld, hfront⟩, hkey,
            hunheld⟩

theorem HasVersion.versionOf_eq {version : Nat} (h : HasVersion entries version) :
    versionOf entries = .ok version := by
  obtain ⟨hlookup, hword⟩ := h
  have hrange : 0 ≤ (version : Int) ∧ (version : Int) ≤ maxVersion := by
    unfold maxVersion
    omega
  rw [versionOf, hlookup]
  dsimp only
  rw [if_pos hrange, Int.toNat_natCast]

theorem versionOf_of_wrong {v : Value} (hv : entries.lookup "version" = some v)
    (h : ∀ version, ¬ HasVersion entries version) :
    versionOf entries = .error (.wrongType "version") := by
  rw [versionOf, hv]
  cases v with
  | integer n =>
      refine if_neg fun hrange => h n.toNat ⟨?_, ?_⟩
      · rw [hv, Int.toNat_of_nonneg hrange.1]
      · unfold maxVersion at hrange
        omega
  | _ => rfl

theorem TextField.textOf_eq {text : Option String} (h : TextField found text) (key : String) :
    textOf key found = .ok text := by
  cases h <;> rfl

theorem NoText.textOf_eq (h : NoText found) (key : String) :
    textOf key found = .error (.wrongType key) := by
  cases h with
  | @intro v hv =>
      cases v with
      | string text => exact absurd rfl (hv text)
      | _ => rfl

theorem textField_or_noText (found : Option Value) :
    (∃ text, TextField found text) ∨ NoText found := by
  cases found with
  | none => exact .inl ⟨none, .absent⟩
  | some v =>
      by_cases h : ∃ text, v = .string text
      · obtain ⟨text, rfl⟩ := h
        exact .inl ⟨some text, .written text⟩
      · exact .inr ⟨not_exists.1 h⟩

theorem Section.loggingOf_eq {level fileLevel file : Option Value}
    (h : Section found level fileLevel file) (version : Nat) :
    loggingOf version found = (do
      let level ← textOf "level" level
      let fileLevel ← textOf "file_level" fileLevel
      let file ← textOf "file" file
      return ⟨version, level.getD "info", fileLevel, file⟩) := by
  cases h with
  | absent => rfl
  | moment text => rfl
  | table origin inner others =>
      rw [loggingOf, others.checkOthers_eq]
      rfl
  | list items => rfl

theorem SectionMisfit.loggingOf_eq (h : SectionMisfit found cause) (version : Nat) :
    loggingOf version found = .error cause := by
  cases h with
  | @shape v htable hlist hmoment =>
      cases v with
      | table origin inner => exact absurd rfl (htable origin inner)
      | array items => exact absurd rfl (hlist items)
      | moment text => exact absurd rfl (hmoment text)
      | _ => rfl
  | other h =>
      rw [loggingOf, h.checkOthers_eq]
      rfl
  | level hsection h =>
      rw [hsection.loggingOf_eq, h.textOf_eq]
      rfl
  | fileLevel hsection hlevel h =>
      rw [hsection.loggingOf_eq, hlevel.textOf_eq, h.textOf_eq]
      rfl
  | file hsection hlevel hfileLevel h =>
      rw [hsection.loggingOf_eq, hlevel.textOf_eq, hfileLevel.textOf_eq, h.textOf_eq]
      rfl

theorem section_or_misfit (found : Option Value) :
    (∃ level fileLevel file, Section found level fileLevel file) ∨
      ∃ cause, SectionMisfit found cause := by
  cases found with
  | none => exact .inl ⟨_, _, _, .absent⟩
  | some v =>
      cases v with
      | table origin inner =>
          rcases othersHeld_or_firstUnheld ["level", "file_level", "file"] inner with h | ⟨key, h⟩
          · exact .inl ⟨_, _, _, .table origin inner h⟩
          · exact .inr ⟨_, .other h⟩
      | array items => exact .inl ⟨_, _, _, .list items⟩
      | moment text => exact .inl ⟨_, _, _, .moment text⟩
      | _ => exact .inr ⟨_, .shape nofun nofun nofun⟩

theorem Describes.ofEntries_eq {document : Document} (h : Describes entries document) :
    Document.ofEntries entries = .ok document := by
  obtain ⟨others, hversion, hsection, hlevel, hfileLevel, hfile⟩ := h
  rw [Document.ofEntries, others.checkOthers_eq, hversion.versionOf_eq]
  change loggingOf _ _ = _
  rw [hsection.loggingOf_eq, hlevel.textOf_eq, hfileLevel.textOf_eq, hfile.textOf_eq]
  rfl

theorem Misfit.ofEntries_eq (h : Misfit entries cause) :
    Document.ofEntries entries = .error cause := by
  rw [Document.ofEntries]
  cases h with
  | other h =>
      rw [h.checkOthers_eq]
      rfl
  | noVersion others h =>
      rw [others.checkOthers_eq, versionOf, h]
      rfl
  | version others hv h =>
      rw [others.checkOthers_eq, versionOf_of_wrong hv h]
      rfl
  | logging others hversion h =>
      rw [others.checkOthers_eq, hversion.versionOf_eq]
      exact h.loggingOf_eq _

theorem Section.texts_or_misfit {level fileLevel file : Option Value}
    (hsection : Section found level fileLevel file) :
    (∃ level' fileLevel' file', TextField level level' ∧ TextField fileLevel fileLevel' ∧
        TextField file file') ∨
      ∃ cause, SectionMisfit found cause := by
  rcases textField_or_noText level with ⟨level', hlevel⟩ | h
  case inr => exact .inr ⟨_, .level hsection h⟩
  rcases textField_or_noText fileLevel with ⟨fileLevel', hfileLevel⟩ | h
  case inr => exact .inr ⟨_, .fileLevel hsection hlevel h⟩
  rcases textField_or_noText file with ⟨file', hfile⟩ | h
  case inr => exact .inr ⟨_, .file hsection hlevel hfileLevel h⟩
  exact .inl ⟨level', fileLevel', file', hlevel, hfileLevel, hfile⟩

theorem hasVersion_or_misfit (others : OthersHeld ["version", "logging"] entries) :
    (∃ version, HasVersion entries version) ∨ ∃ cause, Misfit entries cause := by
  by_cases h : ∃ version, HasVersion entries version
  · exact .inl h
  · right
    cases hv : entries.lookup "version" with
    | none => exact ⟨_, .noVersion others hv⟩
    | some v => exact ⟨_, .version others hv (not_exists.1 h)⟩

theorem describes_or_misfit (entries : Entries) :
    (∃ document, Describes entries document) ∨ ∃ cause, Misfit entries cause := by
  -- The parts are looked at in the order in which the reader meets them.
  rcases othersHeld_or_firstUnheld ["version", "logging"] entries with others | ⟨key, h⟩
  case inr => exact .inr ⟨_, .other h⟩
  rcases hasVersion_or_misfit others with ⟨version, hversion⟩ | hmisfit
  case inr => exact .inr hmisfit
  rcases section_or_misfit (entries.lookup "logging") with
    ⟨level, fileLevel, file, hsection⟩ | ⟨cause, h⟩
  case inr => exact .inr ⟨cause, .logging others hversion h⟩
  rcases hsection.texts_or_misfit with
    ⟨level', fileLevel', file', hlevel, hfileLevel, hfile⟩ | ⟨cause, h⟩
  case inr => exact .inr ⟨cause, .logging others hversion h⟩
  exact .inl ⟨_, .intro others hversion hsection hlevel hfileLevel hfile⟩

theorem Says.read_eq {text : String} {r : Except Malformed Document} (h : Says text r) :
    Document.read text = r := by
  cases h with
  | notToml h => rw [Document.read, h]
  | misfit h hmisfit =>
      rw [Document.read, h]
      exact hmisfit.ofEntries_eq
  | document h hdescribes =>
      rw [Document.read, h]
      exact hdescribes.ofEntries_eq

theorem exists_says (text : String) : ∃ r, Says text r := by
  cases h : Toml.read text with
  | error e => exact ⟨_, .notToml h⟩
  | ok entries =>
      rcases describes_or_misfit entries with ⟨document, hdescribes⟩ | ⟨cause, hmisfit⟩
      · exact ⟨_, .document h hdescribes⟩
      · exact ⟨_, .misfit h hmisfit⟩

theorem read_eq_iff {text : String} {r : Except Malformed Document} :
    Document.read text = r ↔ Says text r := by
  constructor
  · rintro rfl
    obtain ⟨r, h⟩ := exists_says text
    rwa [h.read_eq]
  · exact Says.read_eq

end Settings

end BracketToken
