import BracketToken.Proofs.Process
import BracketToken.Proofs.Range
import BracketToken.Proofs.StringGrammar

/-!
The three grammars side by side.

The first letters of a body tell the names of alphabets from the keywords of dates and of ranges,
and an arrow tells ranges from dates. Main statement: `one_grammar_at_most`, no token belongs to two
grammars, and a check names one of them at most.
-/

namespace BracketToken

theorem isOk_eq_true_iff {ε α : Type} {t : Traced ε α} :
    t.isOk = true ↔ ∃ a, t.outcome = .ok a := by
  rw [Traced.isOk]
  cases t.outcome with
  | error e => simp [Except.isOk, Except.toBool]
  | ok a => simp [Except.isOk, Except.toBool]

/-- Whether a body opens as a keyword of dates does. -/
def opensAsDate : List Char → Bool
  | 'T' :: _ => true
  | 'Y' :: _ => true
  | 'E' :: _ => true
  | 'S' :: 'T' :: _ => true
  | _ => false

theorem DateToken.Phrase.opensAsDate_body (p : Phrase) (rest : List Char) :
    opensAsDate (p.body ++ rest) = true := by
  cases p with
  | relative anchor cs => cases anchor <;> rfl
  | boundary edge month name year => cases edge <;> rfl

theorem StringToken.Alphabet.opensAsDate_name (c : Alphabet) (rest : List Char) :
    opensAsDate (c.name.toList ++ rest) = false := by
  cases c <;> rfl

theorem opensAsDate_of_date {token : String} {tree : DateToken}
    (h : (DateToken.read token).outcome = .ok tree) : opensAsDate token.toList.tail = true := by
  obtain ⟨p, -, htext, -⟩ := DateToken.exists_phrase_of_read h
  rw [htext]
  exact p.opensAsDate_body [']']

theorem opensAsDate_of_range {token : String} {range : DateRange}
    (h : (DateRange.read token).outcome = .ok range) : opensAsDate token.toList.tail = true := by
  obtain ⟨start, finish, hhalves⟩ := DateRange.exists_halves_of_read h
  obtain ⟨b, hb⟩ := hhalves.start
  obtain ⟨p, -, hbody⟩ :=
    DateToken.exists_phrase_of_boundary ((DateToken.read_bracketed_iff token).1 hb)
  rw [hhalves.toList_eq, ← hbody, List.append_assoc p.body, List.cons_append,
    List.append_assoc p.body]
  exact p.opensAsDate_body _

theorem opensAsDate_of_string {token : String} {r : StringToken.Request}
    (h : (StringToken.read token).outcome = .ok r) : opensAsDate token.toList.tail = false := by
  obtain ⟨p, hp, htext, -⟩ := StringToken.exists_phrase_of_read h
  obtain ⟨c, cs, hcs⟩ := List.exists_cons_of_ne_nil hp.alphabets_ne
  have hsegments : p.segments = c.name.toList ::
      (cs.map (·.name.toList) ++ p.length.chars :: StringToken.countSegments p.count) := by
    rw [StringToken.Phrase.segments, hcs]
    rfl
  rw [htext, StringToken.Phrase.text_eq hp.alphabets_ne, hsegments,
    List.intercalate_cons_of_ne_nil (by simp)]
  simp only [List.append_assoc, List.cons_append, List.tail_cons]
  exact c.opensAsDate_name _

theorem not_mem_of_date {token : String} {tree : DateToken}
    (h : (DateToken.read token).outcome = .ok tree) : '<' ∉ token.toList := by
  obtain ⟨p, hp, htext, -⟩ := DateToken.exists_phrase_of_read h
  rw [htext, DateToken.Phrase.text, List.mem_append, List.mem_cons]
  rintro ((hopen | hbody) | hclose)
  · exact absurd hopen (by decide)
  · exact hp.not_mem_body hbody
  · exact absurd hclose (by decide)

theorem mem_of_range {token : String} {range : DateRange}
    (h : (DateRange.read token).outcome = .ok range) : '<' ∈ token.toList := by
  obtain ⟨start, finish, hhalves⟩ := DateRange.exists_halves_of_read h
  rw [hhalves.toList_eq]
  simp [Text.arrow]

/-- What is accepted as a string is neither a date nor a range. -/
theorem accepts_eq_false_of_string {token : String} (h : StringToken.accepts token = true) :
    DateToken.accepts token = false ∧ DateRange.accepts token = false := by
  obtain ⟨r, hr⟩ := isOk_eq_true_iff.1 h
  have hopens := opensAsDate_of_string hr
  constructor
  · rw [Bool.eq_false_iff]
    intro hdate
    obtain ⟨tree, htree⟩ := isOk_eq_true_iff.1 hdate
    exact Text.ne_of_test (opensAsDate_of_date htree) hopens rfl
  · rw [Bool.eq_false_iff]
    intro hrange
    obtain ⟨range, hread⟩ := isOk_eq_true_iff.1 hrange
    exact Text.ne_of_test (opensAsDate_of_range hread) hopens rfl

theorem accepts_eq_false_of_range {token : String} (h : DateRange.accepts token = true) :
    DateToken.accepts token = false := by
  obtain ⟨range, hrange⟩ := isOk_eq_true_iff.1 h
  rw [Bool.eq_false_iff]
  intro hdate
  obtain ⟨tree, htree⟩ := isOk_eq_true_iff.1 hdate
  exact not_mem_of_date htree (mem_of_range hrange)

theorem count_accepts_le_one (token : String) :
    [DateToken.accepts token, DateRange.accepts token, StringToken.accepts token].count true ≤ 1 := by
  cases hstring : StringToken.accepts token with
  | true =>
      obtain ⟨hdate, hrange⟩ := accepts_eq_false_of_string hstring
      rw [hdate, hrange]
      decide
  | false =>
      cases hrange : DateRange.accepts token with
      | true =>
          rw [accepts_eq_false_of_range hrange]
          decide
      | false => cases DateToken.accepts token <;> decide

namespace Command

/-- The answers that name one grammar at most. -/
def Acceptance.sole : List Acceptance :=
  [⟨false, false, false⟩, ⟨true, false, false⟩, ⟨false, true, false⟩, ⟨false, false, true⟩]

theorem Acceptance.mem_sole_of_count {a : Acceptance}
    (h : [a.date, a.range, a.string].count true ≤ 1) : a ∈ sole := by
  obtain ⟨date, range, string⟩ := a
  revert date range string
  decide

theorem Acceptance.ofToken_mem_sole (token : String) : (ofToken token).value ∈ sole :=
  mem_sole_of_count (count_accepts_le_one token)

theorem Acceptance.names_of_mem_sole :
    ∀ a ∈ sole, linesText a.names ∈ ["", "date\n", "range\n", "string\n"] := by
  decide

/-- A check prints its report or, where settings or directives are of no use, nothing. -/
theorem Invocation.stdout_check {σ : Type} (world : World σ) (config : Option String) {json : Bool}
    {token : String} {p : String → Prop} (hnothing : p "")
    (hreport : p (Report.ofCheck json token).stdout) :
    p (run ⟨config, json, .check token⟩ world).stdout := by
  rw [run]
  cases (Settings.load world.files world.environment config).outcome with
  | error failure => exact hnothing
  | ok settings =>
      dsimp only
      rw [runWith]
      cases directives? world.environment with
      | none => exact hnothing
      | some given =>
          dsimp only
          rw [runUnder_eq]
          cases settings.file with
          | none => exact hreport
          | some path =>
              dsimp only
              split
              · exact hreport
              · exact hnothing

theorem Report.stdout_ofCheck (json : Bool) (token : String) :
    (ofCheck json token).stdout =
      if json then linesText [((Acceptance.ofToken token).value.json token).text]
      else linesText (Acceptance.ofToken token).value.names := by
  rw [ofCheck]
  split <;> rfl

end Command

open Command

/-- In JSON, where a check answers for each grammar by name, one answer at most is yes. -/
theorem one_grammar_at_most (token : String) :
    [DateToken.accepts token, DateRange.accepts token, StringToken.accepts token].count true ≤ 1 ∧
      ∀ {σ : Type} (world : World σ) (config : Option String),
        (Invocation.run ⟨config, false, .check token⟩ world).stdout ∈
          ["", "date\n", "range\n", "string\n"] ∧
        (Invocation.run ⟨config, true, .check token⟩ world).stdout ∈
          "" :: Acceptance.sole.map fun a => linesText [(a.json token).text] := by
  have hsole := Acceptance.ofToken_mem_sole token
  refine ⟨count_accepts_le_one token, fun world config => ⟨?_, ?_⟩⟩
  · refine Invocation.stdout_check (p := (· ∈ _)) world config List.mem_cons_self ?_
    rw [Report.stdout_ofCheck]
    exact Acceptance.names_of_mem_sole _ hsole
  · refine Invocation.stdout_check (p := (· ∈ _)) world config List.mem_cons_self ?_
    rw [Report.stdout_ofCheck]
    exact List.mem_cons_of_mem _ (List.mem_map_of_mem hsole)

end BracketToken
