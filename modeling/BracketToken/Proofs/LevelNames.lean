import BracketToken.Log.Filter
import BracketToken.Proofs.Casing
import BracketToken.Proofs.Trim
import BracketToken.Settings.Loading

/-!
The texts that name a level of the log.

The setting of a level and the variable that replaces it are read by two tables. Main statements:
`read?_eq_some_iff`, the setting is read exactly where it names a threshold, blanks around it and
case aside; `overrideLevel_eq`, the variable counts for exactly the same texts, and what it leaves
as the level is read as what it named.
-/

namespace BracketToken

open Text

theorem Text.toLower_of_isBlank {c : Char} (h : isBlank c = true) : c.toLower = c := by
  have hcode : ¬ (65 ≤ c.toNat ∧ c.toNat ≤ 90) := by
    rintro ⟨hlow, hhigh⟩
    rw [isBlank_of_visible ⟨by omega, by omega⟩] at h
    cases h
  rw [← Char.toNat_inj, toNat_toLower, if_neg hcode]

namespace Log.Threshold

/-- The words for a threshold: its name and, for the one that lets nothing pass, another. -/
def words : Threshold → List (List Char)
  | off => ["off".toList, "silent".toList]
  | upTo level => [(upTo level).name.toList]

/-- Whether a text names a threshold: but for blanks around it and the case of its letters, it is a
word for the threshold. -/
def Names (t : Threshold) (text : String) : Prop :=
  ∃ front word back, text.toList = front ++ word ++ back ∧ (∀ c ∈ front, isBlank c = true) ∧
    (∀ c ∈ back, isBlank c = true) ∧ word.map Char.toLower ∈ t.words

theorem letters_of_mem_words {t : Threshold} {word : List Char} (h : word ∈ t.words) :
    word ≠ [] ∧ ∀ c ∈ word, 97 ≤ c.toNat ∧ c.toNat ≤ 122 := by
  have hall : ∀ word ∈ t.words, word ≠ [] ∧
      word.all (fun c => 97 ≤ c.toNat ∧ c.toNat ≤ 122) = true := by
    rcases t with _ | (_ | _ | _ | _ | _) <;> decide
  exact ⟨(hall word h).1, forall_mem_of_all (hall word h).2⟩

/-- A spelling of a word starts and ends with letters, whatever follows it. -/
theorem solid_of_mem_words {word : List Char} {t : Threshold} (h : word.map Char.toLower ∈ t.words)
    (rest : List Char) : SolidStart (word ++ rest) ∧ SolidEnd word := by
  obtain ⟨hne, hletters⟩ := letters_of_mem_words h
  have hsolid : ∀ c ∈ word, isBlank c = false := by
    intro c hc
    rw [Bool.eq_false_iff]
    intro hblank
    obtain ⟨hlow, hhigh⟩ := hletters c (List.mem_map.2 ⟨c, hc, toLower_of_isBlank hblank⟩)
    rw [isBlank_of_visible ⟨by omega, by omega⟩] at hblank
    cases hblank
  obtain ⟨hstart, hend⟩ := solid_of_forall hsolid
  exact ⟨hstart.append (fun hnil => hne (List.map_eq_nil_iff.2 hnil)) rest, hend⟩

theorem names_iff {text : String} {t : Threshold} : t.Names text ↔ normalName text ∈ t.words := by
  constructor
  · rintro ⟨front, word, back, htext, hfront, hback, hword⟩
    obtain ⟨hstart, hend⟩ := solid_of_mem_words hword back
    rwa [normalName, htext, trim_around hfront hback hstart hend]
  · intro h
    obtain ⟨front, back, hfront, hback, htext⟩ := exists_blanks_around text.toList
    exact ⟨front, trim text.toList, back, htext, hfront, hback, h⟩

instance (t : Threshold) (text : String) : Decidable (t.Names text) :=
  decidable_of_iff _ names_iff.symm

/-- Only `silent` is a word that is no name. -/
theorem mem_words_iff {word : List Char} {t : Threshold} :
    word ∈ t.words ↔ if word = "silent".toList then off = t else word = t.name.toList := by
  split
  · next hsilent =>
      rw [hsilent]
      rcases t with _ | (_ | _ | _ | _ | _) <;> decide
  · next hsilent =>
      cases t with
      | off =>
          rw [words, List.mem_cons, List.mem_singleton, or_iff_left hsilent]
          rfl
      | upTo level => rw [words, List.mem_singleton]

theorem read?_eq_some_iff {text : String} {t : Threshold} :
    read? text = some t ↔ t.Names text := by
  rw [names_iff, mem_words_iff, read?]
  by_cases hsilent : normalName text = "silent".toList
  · rw [if_pos hsilent, if_pos hsilent, Option.some.injEq]
  · rw [if_neg hsilent, if_neg hsilent, ofName?, find?_word_eq_some_iff ofName?_name]

theorem read?_eq_none_iff {text : String} : read? text = none ↔ ∀ t : Threshold, ¬ t.Names text :=
  eq_none_iff_of_eq_some_iff fun _ => read?_eq_some_iff

theorem names_name (t : Threshold) : t.Names t.name := by
  rcases t with _ | (_ | _ | _ | _ | _) <;> decide

end Log.Threshold

namespace Settings

open Log

theorem mem_knownLevels_iff {level : String} :
    level ∈ knownLevels ↔ ∃ t : Threshold, level = t.name := by
  constructor
  · intro h
    have hall : ∀ level ∈ knownLevels, ∃ t ∈ Threshold.all, level = t.name := by decide
    obtain ⟨t, -, ht⟩ := hall level h
    exact ⟨t, ht⟩
  · rintro ⟨t, rfl⟩
    rcases t with _ | (_ | _ | _ | _ | _) <;> decide

/-- The normal form of a text is the name of a threshold exactly where the text names it. -/
theorem normalLevel_eq_name_iff {text : String} {t : Threshold} :
    normalLevel text = t.name ↔ t.Names text := by
  have hword (s : String) : String.ofList (Threshold.normalName text) = s ↔
      Threshold.normalName text = s.toList := by
    rw [← String.toList_inj, String.toList_ofList]
  rw [Threshold.names_iff, Threshold.mem_words_iff, normalLevel]
  by_cases hsilent : Threshold.normalName text = "silent".toList
  · rw [if_pos hsilent, if_pos ((hword "silent").2 hsilent)]
    rcases t with _ | (_ | _ | _ | _ | _) <;> decide
  · rw [if_neg hsilent, if_neg (mt (hword "silent").1 hsilent), hword]

/-- The variable counts for the texts that the setting is read from, and leaves the name of what it
named. -/
theorem overrideLevel_eq (s : Settings) (text : String) :
    overrideLevel s (some text) =
      match Threshold.read? text with
      | some t => ⟨[], { s with level := t.name }⟩
      | none => ⟨[.levelOverrideIgnored text], s⟩ := by
  rw [overrideLevel]
  cases h : Threshold.read? text with
  | some t =>
      have hname := normalLevel_eq_name_iff.2 (Threshold.read?_eq_some_iff.1 h)
      rw [hname, if_pos (List.contains_iff_mem.2 (mem_knownLevels_iff.2 ⟨t, rfl⟩))]
  | none =>
      have hnone := Threshold.read?_eq_none_iff.1 h
      rw [if_neg]
      intro hknown
      obtain ⟨t, ht⟩ := mem_knownLevels_iff.1 (List.contains_iff_mem.1 hknown)
      exact hnone t (normalLevel_eq_name_iff.1 ht)

/-- What the variable leaves as the level is read back as what the variable said; a text that says
nothing leaves everything as it was. Saying it again changes nothing. -/
theorem overrideLevel_agrees (s : Settings) (text : String) :
    let adjusted := (overrideLevel s (some text)).value
    (adjusted.source = s.source ∧ adjusted.fileLevel = s.fileLevel ∧ adjusted.file = s.file) ∧
      (match Threshold.read? text with
        | some t => adjusted.level ∈ ["off", "error", "warn", "info", "debug", "trace"] ∧
            Threshold.read? adjusted.level = some t
        | none => adjusted = s) ∧
      (overrideLevel adjusted (some text)).value = adjusted := by
  intro adjusted
  have hadjusted : adjusted = (overrideLevel s (some text)).value := rfl
  clear_value adjusted
  rw [overrideLevel_eq] at hadjusted ⊢
  cases h : Threshold.read? text with
  | some t =>
      rw [h] at hadjusted
      subst hadjusted
      refine ⟨⟨rfl, rfl, rfl⟩, ⟨?_, ?_⟩, rfl⟩
      · exact mem_knownLevels_iff.2 ⟨t, rfl⟩
      · exact Threshold.read?_eq_some_iff.2 t.names_name
  | none =>
      rw [h] at hadjusted
      subst hadjusted
      exact ⟨⟨rfl, rfl, rfl⟩, rfl, rfl⟩

end Settings

end BracketToken
