import BracketToken.Proofs.JsonReader
import BracketToken.Proofs.Message
import BracketToken.Proofs.Results

/-!
Responses against the readers of tokens, and against the JSON that they are written as.

Main statements: `responses_tell`, a response holds the value that a reader comes to, or a message
with the reason why there is none; a blank token never reaches a reader, and no reader would take
it. `json_lossless`, what is written says all that a response holds.
-/

namespace BracketToken

open Calendar Text

theorem Bracket.inner?_of_blank {text : List Char} (h : text.all isBlank = true) :
    inner? text = none := by
  cases text with
  | nil => rfl
  | cons c text =>
      rw [List.all_cons, Bool.and_eq_true] at h
      have hc : c ≠ '[' := ne_of_test h.1 (by decide)
      rw [inner?]
      rintro rest ⟨⟩
      exact hc rfl

theorem DateToken.read_of_blank {token : String} (h : token.toList.all isBlank = true) :
    (read token).outcome = .error (.invalidFormat token) := by
  rw [read_outcome, Bracket.inner?_of_blank h]

theorem DateRange.read_of_blank {token : String} (h : token.toList.all isBlank = true) :
    (read token).outcome = .error (.invalidFormat token) := by
  rw [read_outcome, Bracket.inner?_of_blank h]
  rfl

theorem StringToken.read_of_blank {token : String} (h : token.toList.all isBlank = true) :
    (read token).outcome = .error (.invalidFormat token) := by
  rw [read_outcome, Bracket.inner?_of_blank h]

namespace Response

/-- A response to a token whose reader ends with `outcome`, the shape that all responses have. -/
def answer {ε α : Type} (token : String) (value : α → TokenValue) (message : ε → String)
    (outcome : Except ε α) : Response :=
  if isBlankToken token then refusal blankReason
  else
    match outcome with
    | .ok a => parsed (value a)
    | .error e => refusal (message e)

theorem ofDate_value (token : String) (now : Instant) :
    (ofDate token now).value =
      answer token (fun i => .text i.canonical) DateToken.Error.message
        (DateToken.evaluate token now).outcome := by
  unfold ofDate answer
  split
  · rfl
  · dsimp only
    cases (DateToken.evaluate token now).outcome <;> rfl

theorem ofRange_value (token : String) :
    (ofRange token).value =
      answer token .range DateToken.Error.message (DateRange.read token).outcome := by
  unfold ofRange answer
  split
  · rfl
  · dsimp only
    cases (DateRange.read token).outcome <;> rfl

theorem ofString_value {σ : Type} (source : StringToken.IndexSource σ) (token : String) (s : σ) :
    (ofString source token s).1.value =
      answer token .text StringToken.Error.message
        (StringToken.drawText source token s).1.outcome := by
  unfold ofString answer
  split
  · rfl
  · dsimp only
    cases (StringToken.drawText source token s).1.outcome <;> rfl

/-- What a message says behind its opening words. -/
def saying (token reason : String) : String :=
  if token.toList.all isBlank then "token is required" else reason

/-- What a response tells of a token whose reader ends with `outcome`. -/
def Tells {ε α : Type} (response : Response) (token : String) (value : α → TokenValue)
    (reason : ε → String) : Except ε α → Prop
  | .ok a => response = parsed (value a) ∧ response.status = 200
  | .error e =>
      ∃ message, response = error message ∧ response.status = 400 ∧
        message = "Invalid string token format: " ++ saying token (reason e) ∧
          (saying token (reason e)).toList.all isBlank = false ∧ withOpening message = message

theorem shows_blankReason : Shows blankReason blankReason := ⟨by decide, by decide⟩

theorem tells_refusal {ε α : Type} {token message : String} {value : α → TokenValue}
    {reason : ε → String} {e : ε} (h : Shows message (saying token (reason e))) :
    (refusal message).Tells token value reason (.error e) :=
  ⟨withOpening message, rfl, rfl, h.eq, h.not_blank, withOpening_withOpening message⟩

/-- A response tells what a reader comes to, where the reader refuses blanks and its errors show
their reasons. -/
theorem answer_tells {ε α : Type} {token : String} {value : α → TokenValue}
    {message reason : ε → String} {outcome : Except ε α}
    (hblank : token.toList.all isBlank = true → ∃ e, outcome = .error e)
    (hshows : ∀ e, outcome = .error e → token.toList.all isBlank = false →
      Shows (message e) (reason e)) :
    (answer token value message outcome).Tells token value reason outcome := by
  unfold answer
  rw [isBlankToken_eq]
  cases hb : token.toList.all isBlank with
  | true =>
      obtain ⟨e, rfl⟩ := hblank hb
      apply tells_refusal
      rw [saying, if_pos hb]
      exact shows_blankReason
  | false =>
      cases outcome with
      | ok a => exact ⟨rfl, rfl⟩
      | error e =>
          apply tells_refusal
          rw [saying, if_neg (by simp [hb])]
          exact hshows e rfl hb

theorem ofDate_tells (token : String) (now : Instant) :
    (ofDate token now).value.Tells token (fun i => .text i.canonical)
      (DateToken.Error.reason token) (DateToken.evaluate token now).outcome := by
  rw [ofDate_value]
  apply answer_tells
  · exact fun h => ⟨_, DateToken.evaluate_of_read_error (DateToken.read_of_blank h) now⟩
  · exact fun e he => (DateToken.quotes_of_evaluate he).shows

theorem ofRange_tells (token : String) :
    (ofRange token).value.Tells token .range (DateToken.Error.reason token)
      (DateRange.read token).outcome := by
  rw [ofRange_value]
  apply answer_tells
  · exact fun h => ⟨_, DateRange.read_of_blank h⟩
  · intro e he
    rw [DateRange.eq_invalidFormat_of_read he]
    exact shows_malformed

theorem ofString_tells {σ : Type} (source : StringToken.IndexSource σ) (token : String) (s : σ) :
    (ofString source token s).1.value.Tells token .text (StringToken.Error.reason token)
      (StringToken.drawText source token s).1.outcome := by
  rw [ofString_value, StringToken.drawText_outcome]
  apply answer_tells
  · exact fun h => ⟨_, map_eq_error_iff.2 (StringToken.read_of_blank h)⟩
  · exact fun e he => StringToken.Error.shows_of_read (map_eq_error_iff.1 he)

/-- Every response is the value of its reader, or the reason that it has none. -/
theorem responses_tell (token : String) :
    (∀ now, (ofDate token now).value.Tells token (fun i => .text i.canonical)
        (DateToken.Error.reason token) (DateToken.evaluate token now).outcome) ∧
      (ofRange token).value.Tells token .range (DateToken.Error.reason token)
        (DateRange.read token).outcome ∧
      (∀ {σ : Type} (source : StringToken.IndexSource σ) (s : σ),
        (ofString source token s).1.value.Tells token .text (StringToken.Error.reason token)
          (StringToken.drawText source token s).1.outcome) ∧
      ∀ text, withOpening (withOpening text) = withOpening text :=
  ⟨ofDate_tells token, ofRange_tells token, fun source => ofString_tells source token,
    withOpening_withOpening⟩

-- Blanks before a token are part of what is malformed, and those behind it are not shown.
example : (ofRange " [END-may-2024] \t").value =
    error "Invalid string token format:  [END-may-2024]" := by decide +kernel

inductive IsResponse : Response → Prop
  | date (token : String) (now : Instant) : IsResponse (ofDate token now).value
  | range (token : String) : IsResponse (ofRange token).value
  | string {σ : Type} (source : StringToken.IndexSource σ) (token : String) (s : σ) :
      IsResponse (ofString source token s).1.value

theorem Tells.exists_of_parsed {ε α : Type} {token : String} {value : α → TokenValue}
    {reason : ε → String} {outcome : Except ε α} {v : TokenValue}
    (h : (parsed v).Tells token value reason outcome) : ∃ a, outcome = .ok a ∧ v = value a := by
  cases outcome with
  | ok a => exact ⟨a, rfl, parsed.inj h.1⟩
  | error e =>
      obtain ⟨message, hmessage, -⟩ := h
      cases hmessage

theorem IsResponse.exists_range {range : DateRange} (h : IsResponse (parsed (.range range))) :
    ∃ token, (DateRange.read token).outcome = .ok range := by
  generalize hr : parsed (.range range) = r at h
  cases h with
  | date token now =>
      have htells := ofDate_tells token now
      rw [← hr] at htells
      obtain ⟨i, -, hi⟩ := htells.exists_of_parsed
      cases hi
  | range token =>
      have htells := ofRange_tells token
      rw [← hr] at htells
      obtain ⟨range', hread, hrange⟩ := htells.exists_of_parsed
      cases hrange
      exact ⟨token, hread⟩
  | string source token s =>
      have htells := ofString_tells source token s
      rw [← hr] at htells
      obtain ⟨text, -, htext⟩ := htells.exists_of_parsed
      cases htext

/-- The ends of ranges are told apart by their texts. -/
theorem range_eq_of_json {r q : DateRange} (hr : IsResponse (parsed (.range r)))
    (hq : IsResponse (parsed (.range q))) (h : r.json = q.json) : r = q := by
  obtain ⟨token, hread⟩ := hr.exists_range
  obtain ⟨token', hread'⟩ := hq.exists_range
  obtain ⟨hstart, hfinish⟩ := DateRange.startsPlainDay_of_read hread
  obtain ⟨hstart', hfinish'⟩ := DateRange.startsPlainDay_of_read hread'
  simp only [DateRange.json, Json.object.injEq, List.cons.injEq, Prod.mk.injEq, Json.string.injEq,
    true_and, and_true] at h
  have hs := hstart.readInstant_canonical
  have hf := hfinish.readInstant_canonical
  rw [h.1, hstart'.readInstant_canonical, Except.ok.injEq] at hs
  rw [h.2, hfinish'.readInstant_canonical, Except.ok.injEq] at hf
  cases r
  cases q
  rw [DateRange.mk.injEq]
  exact ⟨hs.symm, hf.symm⟩

theorem value_eq_of_json {v w : TokenValue} (hv : IsResponse (parsed v)) (hw : IsResponse (parsed w))
    (h : v.json = w.json) : v = w := by
  cases v with
  | text t =>
      cases w with
      | text u => rw [Json.string.inj h]
      | range q => cases h
  | range r =>
      cases w with
      | text u => cases h
      | range q => rw [range_eq_of_json hv hw h]

theorem eq_of_json {r q : Response} (hr : IsResponse r) (hq : IsResponse q) (h : r.json = q.json) :
    r = q := by
  cases r with
  | parsed v =>
      cases q with
      | parsed w =>
          simp only [json, Json.object.injEq, List.cons.injEq, Prod.mk.injEq, true_and, and_true] at h
          rw [value_eq_of_json hr hq h]
      | error n => simp [json] at h
  | error m =>
      cases q with
      | parsed w => simp [json] at h
      | error n =>
          simp only [json, Json.object.injEq, List.cons.injEq, Prod.mk.injEq, Json.string.injEq,
            true_and, and_true] at h
          rw [h]

/-- A response is written on one line and can be read back from it. -/
theorem json_lossless {r : Response} (h : IsResponse r) :
    (∀ c ∈ r.json.text.toList, 0x20 ≤ c.toNat) ∧
      (match r with
        | parsed (.text text) => r.succeeds = true ∧
            Json.read? r.json.text = some (.object [("ParsedToken", .string text)])
        | parsed (.range range) => r.succeeds = true ∧
            Json.read? r.json.text = some (.object [("ParsedToken", .object
              [("Start", .string range.start.canonical), ("End", .string range.finish.canonical)])])
        | error message => r.succeeds = false ∧
            Json.read? r.json.text = some (.object [("Error", .string message)])) ∧
      ∀ other, IsResponse other → other.json.text = r.json.text → other = r := by
  have hread := Json.read?_text r.json
  refine ⟨?_, ?_, ?_⟩
  · rw [Json.text, String.toList_ofList]
    exact Json.visible_chars_and_fields.1 r.json
  · cases r with
    | parsed v =>
        cases v with
        | text text => exact ⟨rfl, hread⟩
        | range range => exact ⟨rfl, hread⟩
    | error message => exact ⟨rfl, hread⟩
  · intro other hother htext
    rw [← htext, Json.read?_text, Option.some.injEq] at hread
    exact eq_of_json hother h hread

/-- A message that quotes a quote, a backslash, a line break and a letter that is not of ASCII. -/
theorem json_lossless_quoting :
    let message := "Invalid string token format: [\"\\\né\x01]"
    IsResponse (error message) ∧
      Json.read? (error message).json.text = some (.object [("Error", .string message)]) := by
  intro message
  have hvalue : (ofRange "[\"\\\né\x01] \t").value = error message := by decide +kernel
  have hresponse : IsResponse (error message) := hvalue ▸ .range _
  exact ⟨hresponse, (json_lossless hresponse).2.1.2⟩

end Response

end BracketToken
